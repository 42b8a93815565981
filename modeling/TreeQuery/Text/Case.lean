import TreeQuery.Text.Basic
import TreeQuery.Text.Property.Casing

/-!
# Lowercasing

The full lowercase of a text. Almost every character has its own lowercase, whatever stands
around it; the exceptions are the capital I with a dot, whose lowercase is two characters, and
the Greek capital sigma, whose lowercase at the end of a word is the final sigma.

## Main definitions

* `TreeQuery.Text.lower` — the full lowercase of a text.
* `TreeQuery.Text.lowerAfter` — the same for a text that follows another one.
* `TreeQuery.Text.endsWord` — whether a sigma at this place is the last letter of a word.
-/

namespace TreeQuery.Text

open Property

/-- The lowercase of a character that has a lowercase of one character, else the character. -/
def lowerChar (c : Char) : Char :=
  let n := c.toNat
  match lowercaseRuns.find? fun run =>
      run.1 ≤ n && n ≤ run.2.1 && (n - run.1) % run.2.2.1 == 0 with
  | some run => Char.ofNat (run.2.2.2 + (n - run.1))
  | none => c

/-- Whether the first character that is not passed over is a letter with case. -/
def meetsCased (s : Text) : Bool :=
  match s.dropWhile caseIgnorable.holds with
  | [] => false
  | c :: _ => cased.holds c

/-- Whether a letter between `before` (nearest character first) and `after` ends a word of two or
more letters: a letter with case comes before it and none after it, characters that case
ignores being passed over on both sides. -/
def endsWord (before after : Text) : Bool := meetsCased before && !meetsCased after

/-- The full lowercase of a text that comes after the characters `before`, nearest first. -/
def lowerAfter (before : Text) : Text → Text
  | [] => []
  | c :: s =>
    let image : Text :=
      if c = 'Σ' then [if endsWord before s then 'ς' else 'σ']
      else if c = 'İ' then ['i', '\u0307']
      else [lowerChar c]
    image ++ lowerAfter (c :: before) s

/-- The full lowercase of a text. -/
def lower (s : Text) : Text := lowerAfter [] s

end TreeQuery.Text
