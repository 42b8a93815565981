import TreeQuery.Json.Basic
import TreeQuery.Number.Shortest

/-!
# Writing data values

The written form of a data value: without spaces, with the fields of objects in the order in
which the value holds them, and with escapes only where the grammar of strings requires them.

## Main definitions

* `TreeQuery.Json.render` — the written form of a value.
-/

namespace TreeQuery.Json

/-- The written form of a character of a string. Quotes, backslashes and control characters are
escaped. -/
def renderChar (c : Char) : Text :=
  if c = '"' then ['\\', '"']
  else if c = '\\' then ['\\', '\\']
  else if c = '\x08' then ['\\', 'b']
  else if c = '\x0c' then ['\\', 'f']
  else if c = '\n' then ['\\', 'n']
  else if c = '\r' then ['\\', 'r']
  else if c = '\t' then ['\\', 't']
  else if c.toNat < 0x20 then
    ['\\', 'u', '0', '0', Nat.digitChar (c.toNat / 16), Nat.digitChar (c.toNat % 16)]
  else [c]

/-- The written form of a string. -/
def renderString (s : Text) : Text := '"' :: s.flatMap renderChar ++ ['"']

/-- The written form of an integer. -/
def renderInt : Int → Text
  | .ofNat n => Nat.toDigits 10 n
  | .negSucc n => '-' :: Nat.toDigits 10 (n + 1)

mutual

/-- The written form of a value. -/
def render : Json → Text
  | .null => ['n', 'u', 'l', 'l']
  | .bool true => ['t', 'r', 'u', 'e']
  | .bool false => ['f', 'a', 'l', 's', 'e']
  | .int n => renderInt n
  | .double x => x.render
  | .string s => renderString s
  | .array [] => ['[', ']']
  | .array (item :: items) => '[' :: render item ++ renderItems items
  | .object [] => ['\x7b', '\x7d']
  | .object ((name, value) :: fields) =>
    '\x7b' :: renderString name ++ ':' :: render value ++ renderFields fields

/-- The further items of an array and its closing bracket. -/
def renderItems : List Json → Text
  | [] => [']']
  | item :: items => ',' :: render item ++ renderItems items

/-- The further fields of an object and its closing brace. -/
def renderFields : List (Text × Json) → Text
  | [] => ['\x7d']
  | (name, value) :: fields =>
    ',' :: renderString name ++ ':' :: render value ++ renderFields fields

end

end TreeQuery.Json
