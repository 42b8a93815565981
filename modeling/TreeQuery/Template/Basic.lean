import TreeQuery.Json.Decode

/-!
# Templates

A pseudo-selector is written inside a native selector as an *occurrence*: a lead, a name, a
trail, and a value between wrappers in parentheses. The template says which texts serve as lead,
trail and wrapper.

```text
lead name trail ( wrapper value wrapper )
```

## Main definitions

* `TreeQuery.Template` — the three tokens, and `TreeQuery.Template.default`.
* `TreeQuery.Template.Patch` — new values for some of them.
* `TreeQuery.Template.apply` — the template after a patch.
* `TreeQuery.Template.ofJson`, `TreeQuery.Template.Patch.ofJson` — reading them from data texts.
-/

namespace TreeQuery

open Json

/-- The tokens around the name and the value of an occurrence. They are taken literally,
whatever characters they consist of. -/
structure Template where
  /-- What stands in front of the name. -/
  lead : Text
  /-- What stands between the name and the opening parenthesis. -/
  trail : Text
  /-- What stands on both sides of the value. -/
  wrapper : Text
  deriving DecidableEq, Repr

namespace Template

/-- The built-in tokens. -/
def default : Template where
  lead := "advanced-selector-".toList
  trail := []
  wrapper := ['"']

/-- New values for some of the tokens. -/
structure Patch where
  lead : Option Text := none
  trail : Option Text := none
  wrapper : Option Text := none
  deriving DecidableEq, Repr

/-- The template with the tokens that the patch gives, and its own ones otherwise. -/
def apply (t : Template) (p : Patch) : Template where
  lead := p.lead.getD t.lead
  trail := p.trail.getD t.trail
  wrapper := p.wrapper.getD t.wrapper

/-! ## Data form -/

/-- The names of the tokens in data texts. -/
def fieldNames : List Text := ["prefix".toList, "suffix".toList, "valueWrapper".toList]

/-- The record of the three tokens. -/
def record (lead trail wrapper : Json) : Json :=
  .object [("prefix".toList, lead), ("suffix".toList, trail), ("valueWrapper".toList, wrapper)]

/-- The template as a data value. -/
def toJson (t : Template) : Json := record (.string t.lead) (.string t.trail) (.string t.wrapper)

/-- A token as a data value; null if there is none. -/
def tokenJson (token : Option Text) : Json := token.elim .null .string

/-- The patch as a data value, with null for the tokens that it leaves alone. -/
def Patch.toJson (p : Patch) : Json :=
  record (tokenJson p.lead) (tokenJson p.trail) (tokenJson p.wrapper)

/-- A template from the structure of a data text. All tokens must be there. -/
def ofRaw (raw : Raw) : Except Problem Template := do
  let tokens ← raw.fields fieldNames
  let token (i : Nat) : Except Problem Text := do
    (← required (fieldNames[i]?.getD []) (tokens[i]?.getD none)).text
  return { lead := ← token 0, trail := ← token 1, wrapper := ← token 2 }

/-- A patch from the structure of a data text. -/
def Patch.ofRaw (raw : Raw) : Except Problem Patch := do
  let tokens ← raw.fields fieldNames
  let token (i : Nat) : Except Problem (Option Text) := optional Raw.text (tokens[i]?.getD none)
  return { lead := ← token 0, trail := ← token 1, wrapper := ← token 2 }

/-- A template from a data text. -/
def ofJson (s : Text) : Except Problem Template :=
  (Raw.parse? s).elim (.error .malformed) ofRaw

/-- A patch from a data text. -/
def Patch.ofJson (s : Text) : Except Problem Patch :=
  (Raw.parse? s).elim (.error .malformed) Patch.ofRaw

end Template

end TreeQuery
