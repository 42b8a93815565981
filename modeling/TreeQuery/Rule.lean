import TreeQuery.Json.Decode

/-!
# Conditional rules

A rule asks whether a selector finds anything below a node, and names one assignment of a
property for each of the two outcomes.

## Main definitions

* `TreeQuery.Rule`, `TreeQuery.Assignment` — rules and their assignments.
* `TreeQuery.Rule.ofJson`, `TreeQuery.Rule.toJson` — rules as data.

## Main results

* `TreeQuery.Rule.length_selector_lt` — the selector of a rule is shorter than the data text of
  the rule.
-/

namespace TreeQuery

open Json

/-- A property and the value it gets. -/
structure Assignment where
  property : Text
  value : Json
  deriving Repr

/-- A selector, and what to assign if it finds something and if it does not. -/
structure Rule where
  selector : Text
  whenMatch : Option Assignment
  whenNoMatch : Option Assignment
  deriving Repr

namespace Assignment

/-- The names of the fields of an assignment in data texts. -/
def fieldNames : List Text := ["property".toList, "value".toList]

/-- An assignment from the structure of a data text. The value must be there but may be null;
`levels` is how deeply arrays and objects may be nested in it. -/
def ofRaw (levels : Nat) (raw : Raw) : Except Problem Assignment := do
  let fields ← raw.fields fieldNames
  let property ← required "property".toList (fields[0]?.getD none)
  let value ← required "value".toList (fields[1]?.getD none)
  return { property := ← property.text, value := ← value.decode levels }

/-- The assignment as a data value. -/
def toJson (a : Assignment) : Json :=
  .object [("property".toList, .string a.property), ("value".toList, a.value)]

end Assignment

namespace Rule

/-- The assignment for an outcome. -/
def branch (r : Rule) (found : Bool) : Option Assignment :=
  if found then r.whenMatch else r.whenNoMatch

/-- The names of the fields of a rule in data texts. -/
def fieldNames : List Text := ["selector".toList, "whenMatch".toList, "whenNoMatch".toList]

/-- A rule from the structure of a data text. Its assignments may be left out or null; they are
two levels deep in the text when their values begin. -/
def ofRaw (raw : Raw) : Except Problem Rule :=
  match raw.fields fieldNames with
  | .error e => .error e
  | .ok fields =>
    match fields[0]?.getD none with
    | none => .error (.missingField "selector".toList)
    | some field =>
      match field.text with
      | .error e => .error e
      | .ok selector => do
        let assignment (i : Nat) : Except Problem (Option Assignment) :=
          optional (Assignment.ofRaw (depthLimit - 2)) (fields[i]?.getD none)
        return ⟨selector, ← assignment 1, ← assignment 2⟩

/-- A rule from a data text. -/
def ofJson (s : Text) : Except Problem Rule :=
  match Raw.parse? s with
  | none => .error .malformed
  | some raw => ofRaw raw

/-- The rule as a data value, with null for assignments that it does not have. -/
def toJson (r : Rule) : Json :=
  .object [("selector".toList, .string r.selector),
    ("whenMatch".toList, r.whenMatch.elim .null Assignment.toJson),
    ("whenNoMatch".toList, r.whenNoMatch.elim .null Assignment.toJson)]

/-- The selector of a rule is shorter than the structure of the rule is wide. -/
theorem length_selector_of_ofRaw {raw : Raw} {r : Rule} (h : ofRaw raw = .ok r) :
    r.selector.length < raw.width := by
  unfold ofRaw at h
  split at h
  · simp at h
  · rename_i fields hf
    split at h
    · simp at h
    · rename_i field h0
      have hmem : some field ∈ fields := by
        cases h1 : fields[0]? with
        | none => simp [h1] at h0
        | some x =>
          simp only [h1, Option.getD_some] at h0
          exact h0 ▸ List.mem_of_getElem? h1
      have hw := Raw.width_of_fields hf hmem
      split at h
      · simp at h
      · rename_i selector hs
        have ht := Raw.length_of_text hs
        simp only [bind, Except.bind, pure, Except.pure] at h
        split at h
        · simp at h
        · split at h
          · simp at h
          · simp only [Except.ok.injEq] at h
            subst h
            exact Nat.lt_trans ht hw

/-- The selector of a rule is shorter than the data text of the rule. -/
theorem length_selector_lt {s : Text} {r : Rule} (h : ofJson s = .ok r) :
    r.selector.length < s.length := by
  unfold ofJson at h
  split at h
  · simp at h
  · rename_i raw hr
    exact Nat.lt_of_lt_of_le (length_selector_of_ofRaw h) (Raw.width_le_of_parse? hr)

end Rule

end TreeQuery
