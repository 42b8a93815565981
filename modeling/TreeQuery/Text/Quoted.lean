import TreeQuery.Text.Basic
import TreeQuery.Text.Property.Unprintable

/-!
# Quoted texts

Messages quote a text so that every character in it can be seen: between double quotes, with the
usual short escapes, and with the code point in base sixteen for characters without a printed
form of their own and for marks that would attach to the character before them.

## Main definitions

* `TreeQuery.Text.isSpelledOut` — characters that are given by their code points.
* `TreeQuery.Text.quoted` — the quoted form of a text.
-/

namespace TreeQuery.Text

open Property

/-- Whether the character attaches to the character before it when it is printed. -/
def attaches (c : Char) : Bool := graphemeExtend.holds c && !halfwidthSoundMark.holds c

/-- Whether the character cannot be seen by itself, so that its code point is written instead. -/
def isSpelledOut (c : Char) : Bool :=
  attaches c || unprintable.holds c || defaultIgnorable.holds c

/-- The form of a character between double quotes. -/
def quotedChar (c : Char) : Text :=
  if c = '\x00' then ['\\', '0']
  else if c = '\t' then ['\\', 't']
  else if c = '\r' then ['\\', 'r']
  else if c = '\n' then ['\\', 'n']
  else if c = '\\' then ['\\', '\\']
  else if c = '"' then ['\\', '"']
  else if isSpelledOut c then ['\\', 'u', '\x7b'] ++ hexDigits c.toNat ++ ['\x7d']
  else [c]

/-- The text between double quotes, each character in its quoted form. -/
def quoted (s : Text) : Text := '"' :: s.flatMap quotedChar ++ ['"']

end TreeQuery.Text
