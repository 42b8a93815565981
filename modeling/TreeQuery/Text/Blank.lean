import TreeQuery.Text.Basic
import TreeQuery.Text.CharRanges

/-!
# Blanks, trimming and words

Trimming and splitting into words go by the Unicode property `White_Space`, which has more
members than the four spaces of the grammars: form feed, no-break space, the typographic spaces
and the separators of lines and paragraphs belong to it, the zero-width space does not.

## Main definitions

* `TreeQuery.Text.isBlank` — the property `White_Space`.
* `TreeQuery.Text.trim` — a text without the blanks at its two ends.
* `TreeQuery.Text.words` — the maximal runs of characters that are not blank.
-/

namespace TreeQuery

/-- The characters with the Unicode property `White_Space`. -/
def Property.whiteSpace : CharRanges :=
  [ (0x9, 0xd), (0x20, 0x20), (0x85, 0x85), (0xa0, 0xa0), (0x1680, 0x1680), (0x2000, 0x200a),
    (0x2028, 0x2029), (0x202f, 0x202f), (0x205f, 0x205f), (0x3000, 0x3000) ]

namespace Text

/-- Whether the character counts as white space at the ends of a text and between words. -/
def isBlank (c : Char) : Bool := Property.whiteSpace.holds c

/-- The four spaces of the grammars are blanks. -/
theorem isBlank_of_isSpace {c : Char} (h : isSpace c = true) : isBlank c = true := by
  simp only [isSpace, Bool.or_eq_true, beq_iff_eq] at h
  rcases h with ((h | h) | h) | h <;> subst h <;> decide

/-- The text without the blanks at its beginning. -/
def trimStart (s : Text) : Text := s.dropWhile isBlank

/-- The text without the blanks at its end. -/
def trimEnd (s : Text) : Text := (s.reverse.dropWhile isBlank).reverse

/-- The text without the blanks at its two ends. -/
def trim (s : Text) : Text := trimEnd (trimStart s)

/-- The maximal runs of characters that are not blank, in order. -/
def words (s : Text) : List Text := (pieces isBlank s).filter fun word => !word.isEmpty

end Text

end TreeQuery
