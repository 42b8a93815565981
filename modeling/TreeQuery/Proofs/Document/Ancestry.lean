import Mathlib.Logic.Relation
import TreeQuery.Document.Basic

set_option relaxedAutoImplicit false
set_option autoImplicit false

/-!
# What lies above a node

The nodes above a node and those below it, said by the parent relation alone.

## Main definitions

* `TreeQuery.Document.Above` — one node lies properly above another.
* `TreeQuery.Document.Within` — one node is another one or lies below it.

## Main results

* `TreeQuery.Document.mem_ancestors_iff` — the list of ancestors holds the nodes above a node.
* `TreeQuery.Document.mem_descendants_iff` — the list of descendants holds the nodes below a node.
-/

namespace TreeQuery.Document

/-- The node `a` lies properly above the node `n`: going from `n` to the parent one or more times
leads to `a`. -/
def Above (d : Document) : (a n : NodeId) → Prop :=
  Relation.TransGen fun p n => d.parent? n = some p

/-- The node `n` is the node `a` or lies below it: going from `n` to the parent any number of times
leads to `a`. -/
def Within (d : Document) : (a n : NodeId) → Prop :=
  Relation.ReflTransGen fun p n => d.parent? n = some p

lemma within_self (d : Document) (n : NodeId) : d.Within n n := .refl

lemma Above.within {d : Document} {a n : NodeId} (h : d.Above a n) : d.Within a n :=
  Relation.TransGen.to_reflTransGen h

lemma ancestors_of_parent? {d : Document} {n p : NodeId} (h : d.parent? n = some p) :
    d.ancestors n = p :: d.ancestors p := by
  rw [ancestors]
  split
  · rename_i hnone
    rw [h] at hnone
    simp at hnone
  · rename_i q hq
    rw [h, Option.some.injEq] at hq
    rw [hq]

lemma ancestors_of_parent?_eq_none {d : Document} {n : NodeId} (h : d.parent? n = none) :
    d.ancestors n = [] := by
  rw [ancestors]
  split
  · rfl
  · rename_i p hp
    rw [h] at hp
    simp at hp

/-- **The list of ancestors** holds exactly the nodes that lie properly above a node. -/
theorem mem_ancestors_iff {d : Document} {a n : NodeId} : a ∈ d.ancestors n ↔ d.Above a n := by
  constructor
  · intro h
    fun_induction ancestors d n with
    | case1 n hnone => simp at h
    | case2 n p hp ih =>
      rcases List.mem_cons.1 h with rfl | h
      · exact .single hp
      · exact (ih h).tail hp
  · intro h
    induction h with
    | single hp =>
      rw [ancestors_of_parent? hp]
      exact List.mem_cons_self
    | tail _ hp ih =>
      rw [ancestors_of_parent? hp]
      exact List.mem_cons_of_mem _ ih

instance (d : Document) (a n : NodeId) : Decidable (d.Above a n) :=
  decidable_of_iff (a ∈ d.ancestors n) mem_ancestors_iff

/-- Only nodes of the document have a parent. -/
lemma lt_size_of_parent? {d : Document} {n p : NodeId} (h : d.parent? n = some p) :
    n < d.size := by
  obtain ⟨node, hnode, -⟩ := Option.map_eq_some_iff.1 h
  cases n with
  | zero => simp [node?] at hnode
  | succ i =>
    obtain ⟨hi, -⟩ := Array.getElem?_eq_some_iff.1 hnode
    exact Nat.succ_lt_succ hi

/-- **The list of descendants** holds exactly the nodes that lie properly below a node. -/
theorem mem_descendants_iff {d : Document} {a n : NodeId} :
    n ∈ d.descendants a ↔ d.Above a n := by
  rw [descendants_eq_filter, List.mem_filter, List.contains_iff_mem, mem_ancestors_iff,
    List.mem_range]
  constructor
  · rintro ⟨-, h⟩
    exact h
  · intro h
    obtain ⟨p, -, hp⟩ := Relation.TransGen.tail'_iff.1 h
    exact ⟨lt_size_of_parent? hp, h⟩

/-- A node and what lies above it, as a list. -/
lemma mem_cons_ancestors_iff {d : Document} {a n : NodeId} :
    a ∈ n :: d.ancestors n ↔ d.Within a n := by
  rw [List.mem_cons, mem_ancestors_iff, Within, Relation.reflTransGen_iff_eq_or_transGen, eq_comm]
  rfl

/-- A node and what lies below it, as a list. -/
lemma within_iff {d : Document} {a n : NodeId} :
    d.Within a n ↔ n = a ∨ n ∈ d.descendants a := by
  rw [mem_descendants_iff]
  exact Relation.reflTransGen_iff_eq_or_transGen

lemma parentElement?_eq_some_iff {d : Document} {a n : NodeId} :
    d.parentElement? n = some a ↔ d.parent? n = some a ∧ d.isElement a = true := by
  rw [parentElement?, Option.filter_eq_some_iff]

end TreeQuery.Document
