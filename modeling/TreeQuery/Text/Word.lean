import TreeQuery.Text.Property.Age
import TreeQuery.Text.Property.Alphabetic
import TreeQuery.Text.Property.Number
import TreeQuery.Text.Property.Mark

/-!
# Alphanumeric characters and word characters

Two neighbouring classes of characters that must not be confused. Names in native selectors are
made of *alphanumeric* characters, names of pseudo-selectors of *word* characters. A superscript
two is alphanumeric and no word character; a combining accent is the other way round. Besides, the
alphanumeric characters are those of Unicode 17.0 and the word characters those of Unicode 16.0:
a letter that is new in Unicode 17.0 is alphanumeric and no word character.

## Main definitions

* `TreeQuery.Text.isAlphanumeric` — letters and numbers of every kind.
* `TreeQuery.Text.isWord` — letters, marks, decimal digits, connectors and join controls.
-/

namespace TreeQuery.Text

open Property

/-- Letters and numbers of every kind: alphabetic characters, decimal digits and other numbers. -/
def isAlphanumeric (c : Char) : Bool :=
  alphabetic.holds c || decimalNumber.holds c || otherNumber.holds c

/-- Alphabetic characters, combining marks, decimal digits, connector punctuation and the two join
controls, whatever the age of the character. -/
def continuesWord (c : Char) : Bool :=
  alphabetic.holds c || mark.holds c || decimalNumber.holds c || connector.holds c ||
    joinControl.holds c

/-- The characters a word is made of, by the rule of Unicode 16.0. No character known to that
version has entered or left the class since, so they are those of today without the new ones. -/
def isWord (c : Char) : Bool := continuesWord c && !newIn17.holds c

end TreeQuery.Text
