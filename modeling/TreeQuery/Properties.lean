import TreeQuery.Evaluation

/-!
# Properties of nodes

Properties are values that are assigned to nodes besides what the document says of them. Nothing
in the evaluation of selectors reads them.

## Main definitions

* `TreeQuery.Properties` — the assigned values of all nodes.
* `TreeQuery.Properties.get?`, `TreeQuery.Properties.put` — one value.
* `TreeQuery.Properties.after` — the properties after the effects of an evaluation.
* `TreeQuery.noticesOf` — the notices among effects.
-/

namespace TreeQuery

/-- The assigned values of nodes, by node and name. -/
abbrev Properties := Table NodeId (Table Text Json)

namespace Properties

/-- The value of a property, if it has been assigned. -/
def get? (p : Properties) (n : NodeId) (name : Text) : Option Json :=
  (Table.get? n p).bind (Table.get? name)

/-- The properties with one more assignment. -/
def put (p : Properties) (n : NodeId) (name : Text) (value : Json) : Properties :=
  Table.put n (Table.put name value ((Table.get? n p).getD [])) p

/-- A property has the value assigned last; all others are left alone. -/
theorem get?_put (p : Properties) (n m : NodeId) (name other : Text) (value : Json) :
    (p.put n name value).get? m other =
      if m = n ∧ other = name then some value else p.get? m other := by
  unfold get? put
  rw [Table.get?_put]
  by_cases hm : m = n
  · subst hm
    by_cases ho : other = name
    · simp [Table.get?_put, ho]
    · cases h : Table.get? m p <;> simp [Table.get?_put, ho, Table.get?]
  · simp [hm]

/-- The properties after the assignments among some effects. -/
def after (p : Properties) : List Effect → Properties
  | [] => p
  | .assign n name value :: effects => (p.put n name value).after effects
  | .notice _ :: effects => p.after effects

end Properties

/-- The notices among effects, in order. -/
def noticesOf (effects : List Effect) : List Notice :=
  effects.filterMap fun
    | .notice n => some n
    | .assign _ _ _ => none

end TreeQuery
