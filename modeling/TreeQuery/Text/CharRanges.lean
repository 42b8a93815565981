/-!
# Sets of characters given by runs of code points

Character properties are data: long lists of runs of code points. This module says how such a
list is read as a set.

## Main definitions

* `TreeQuery.CharRanges` — a set of characters as a list of runs.
* `TreeQuery.CharRanges.holds` — membership.
-/

namespace TreeQuery

/-- A set of characters: the first and the last code point of each of its runs. -/
abbrev CharRanges := List (Nat × Nat)

/-- Whether the character lies in one of the runs. -/
def CharRanges.holds (set : CharRanges) (c : Char) : Bool :=
  set.any fun run => run.1 ≤ c.toNat && c.toNat ≤ run.2

/-- A character belongs to a set exactly when some run of the set encloses its code point. -/
theorem CharRanges.holds_iff {set : CharRanges} {c : Char} :
    set.holds c = true ↔ ∃ run ∈ set, run.1 ≤ c.toNat ∧ c.toNat ≤ run.2 := by
  simp [CharRanges.holds]

end TreeQuery
