import TreeQuery.Number.Binary64
import TreeQuery.Table

/-!
# Data values

The free values of the program: what is stored as a property of a node, and what rules and
configurations are written in.

## Main definitions

* `TreeQuery.Json` — a data value.
* `TreeQuery.Json.Problem` — why a text is not the data that was asked for.
-/

namespace TreeQuery

/-- A data value. Integers and doubles are kept apart, and the fields of an object form a table:
in the order of their names, each name once. -/
inductive Json
  | null
  | bool (value : Bool)
  | int (value : Int)
  | double (value : Binary64)
  | string (value : Text)
  | array (items : List Json)
  | object (fields : List (Text × Json))
  deriving Repr, BEq, Inhabited

/-- Why a text is not the data that was asked for. -/
inductive Json.Problem
  /-- The text is not one well-formed value. -/
  | malformed
  /-- Arrays and objects are nested too deeply. -/
  | tooDeep
  /-- A string holds half of a surrogate pair. -/
  | loneSurrogate
  /-- A number is beyond all doubles. -/
  | numberTooLarge
  /-- A value is of another kind than the place asks for. -/
  | wrongKind (expected : Text)
  /-- An array has more items than the record has fields. -/
  | tooManyItems
  /-- A field of the record is not there. -/
  | missingField (name : Text)
  /-- A field of the record is there twice. -/
  | repeatedField (name : Text)
  deriving DecidableEq, Repr

/-- The wording of a problem. -/
def Json.Problem.message : Json.Problem → Text
  | malformed => "malformed data".toList
  | tooDeep => "data nested too deeply".toList
  | loneSurrogate => "lone surrogate in a string".toList
  | numberTooLarge => "number out of range".toList
  | wrongKind expected => "expected ".toList ++ expected
  | tooManyItems => "too many items".toList
  | missingField name => "missing field ".toList ++ name
  | repeatedField name => "repeated field ".toList ++ name

end TreeQuery
