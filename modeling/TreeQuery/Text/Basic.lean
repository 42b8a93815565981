/-!
# Texts

A text is a list of characters. All scanning, searching and splitting of the library happens on
lists, where prefixes, infixes and lengths have their usual meaning; strings appear only where
text enters or leaves the program.

## Main definitions

* `TreeQuery.Text` — a list of characters.
* `TreeQuery.Text.after?` — what follows a given beginning.
* `TreeQuery.Text.occursIn` — whether one text is a contiguous part of another.
* `TreeQuery.Text.pieces` — the parts between separators.
* `TreeQuery.Text.isSpace` — the four spaces of the grammars: space, tab, carriage return and
  line feed.

## Main results

* `TreeQuery.Text.after?_eq_some_iff` — `after?` removes exactly the given beginning.
* `TreeQuery.Text.occursIn_iff` — `occursIn` decides the infix relation.
-/

namespace TreeQuery

/-- A text is a list of characters. -/
abbrev Text := List Char

namespace Text

/-- The text as a string, for printing. -/
def asString (s : Text) : String := String.ofList s

/-! ## Beginnings and parts -/

/-- What follows the beginning `token` in `s`, if `s` begins with it. -/
def after? : (token s : Text) → Option Text
  | [], s => some s
  | _ :: _, [] => none
  | t :: token, c :: s => if t = c then after? token s else none

theorem after?_eq_some_iff {token s rest : Text} :
    after? token s = some rest ↔ s = token ++ rest := by
  induction token generalizing s with
  | nil => simp [after?, eq_comm]
  | cons t token ih =>
    cases s with
    | nil => simp [after?]
    | cons c s => by_cases h : t = c <;> simp [after?, h, ih, eq_comm]

@[simp] theorem after?_append (token rest : Text) : after? token (token ++ rest) = some rest :=
  after?_eq_some_iff.2 rfl

/-- What is left after a beginning is shorter by the length of that beginning. -/
theorem length_of_after? {token s rest : Text} (h : after? token s = some rest) :
    s.length = token.length + rest.length := by
  rw [after?_eq_some_iff.1 h, List.length_append]

/-- Whether `part` is a contiguous part of `s`. -/
def occursIn (part : Text) : (s : Text) → Bool
  | [] => part.isEmpty
  | c :: s => part.isPrefixOf (c :: s) || occursIn part s

theorem occursIn_iff {part s : Text} : occursIn part s = true ↔ part <:+: s := by
  induction s with
  | nil => simp [occursIn, List.infix_nil]
  | cons c s ih => simp [occursIn, List.infix_cons_iff, ih]

/-! ## Splitting -/

/-- The parts of a text between separators. A text without separators is one part. -/
def pieces (separates : Char → Bool) : Text → List Text
  | [] => [[]]
  | c :: s =>
    if separates c then [] :: pieces separates s
    else match pieces separates s with
      | [] => [[c]]
      | part :: parts => (c :: part) :: parts

/-! ## Spaces -/

/-- The spaces that the grammars of selectors, of data texts and of markup allow between their
parts: space, tab, carriage return and line feed. -/
def isSpace (c : Char) : Bool := c == ' ' || c == '\t' || c == '\r' || c == '\n'

/-- The text without the spaces at its beginning. -/
def skipSpace (s : Text) : Text := s.dropWhile isSpace

theorem length_skipSpace_le (s : Text) : (skipSpace s).length ≤ s.length :=
  (List.dropWhile_sublist _).length_le

/-! ## Digits -/

/-- The lower-case digits of a number in base sixteen. -/
def hexDigits (n : Nat) : Text := Nat.toDigits 16 n

/-- The value of a decimal digit. -/
def digit? (c : Char) : Option Nat := if c.isDigit then some (c.toNat - '0'.toNat) else none

/-- The value of a digit in base sixteen, in either case. -/
def hexDigit? (c : Char) : Option Nat :=
  if c.isDigit then some (c.toNat - '0'.toNat)
  else if 'a' ≤ c ∧ c ≤ 'f' then some (c.toNat - 'a'.toNat + 10)
  else if 'A' ≤ c ∧ c ≤ 'F' then some (c.toNat - 'A'.toNat + 10)
  else none

end Text

end TreeQuery
