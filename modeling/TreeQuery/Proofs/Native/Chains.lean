import TreeQuery.Native.Matching
import TreeQuery.Proofs.Document.Ancestry

set_option relaxedAutoImplicit false
set_option autoImplicit false

/-!
# Matching is the existence of a chain

A complex selector says of a node that it is the last of a chain of elements: each of them
satisfies its compound, and every two neighbours are placed as the combinator between their
compounds says. Matching goes from right to left and tries the elements above a node one after
the other; it succeeds exactly if there is such a chain, also where the nearest element that
satisfies a compound is not the one to choose.

## Main definitions

* `TreeQuery.Native.Compound.Describes` — what a compound says of a node.
* `TreeQuery.Native.Combinator.Joins` — how a combinator places two nodes.
* `TreeQuery.Native.Complex.IsChain` — the chains of a complex selector.

## Main results

* `TreeQuery.Native.Compound.holds_iff` — testing a compound decides what it says.
* `TreeQuery.Native.Complex.holds_iff_exists_chain` — matching decides whether a chain exists.
-/

namespace TreeQuery.Native

open Text

/-! ## What compounds say -/

/-- How the value of an attribute has to compare with the value of a test. An empty test value
begins, ends and occurs in nothing. -/
def Operator.Compares (value actual : Text) : Operator → Prop
  | equals => actual = value
  | includes => value ∈ words actual
  | begins => value ≠ [] ∧ value <+: actual
  | ends => value ≠ [] ∧ value <:+ actual
  | contains => value ≠ [] ∧ value <:+: actual

/-- The node has the attribute of the test, and its value compares as the test asks. -/
def AttributeTest.Describes (t : AttributeTest) (d : Document) (n : NodeId) : Prop :=
  ∃ actual, d.attribute? n t.name = some actual ∧
    ∀ op value, t.comparison = some (op, value) → op.Compares value actual

/-- What a compound says of a node: it is an element with the tag, with every id, with every class
among the words of its `class` attribute, and every attribute test is met. -/
structure Compound.Describes (c : Compound) (d : Document) (n : NodeId) : Prop where
  isElement : d.isElement n = true
  tag : ∀ tag, c.tag = some tag → d.tag n = tag
  ids : ∀ id ∈ c.ids, d.attribute? n "id".toList = some id
  classes : ∀ name ∈ c.classes, ∃ value,
    d.attribute? n "class".toList = some value ∧ name ∈ words value
  attributes : ∀ t ∈ c.attributes, t.Describes d n

lemma Operator.compare_iff {op : Operator} {value actual : Text} :
    op.compare value actual = true ↔ op.Compares value actual := by
  cases op <;> simp [compare, Compares, occursIn_iff]

lemma AttributeTest.accepts_iff {t : AttributeTest} {d : Document} {n : NodeId} :
    t.accepts d n = true ↔ t.Describes d n := by
  unfold accepts Describes
  cases d.attribute? n t.name with
  | none => simp
  | some actual =>
    cases t.comparison with
    | none => simp
    | some c =>
      obtain ⟨op, value⟩ := c
      simp [Operator.compare_iff]

lemma mem_classesOf_iff {d : Document} {n : NodeId} {name : Text} :
    name ∈ classesOf d n ↔
      ∃ value, d.attribute? n "class".toList = some value ∧ name ∈ words value := by
  unfold classesOf
  cases d.attribute? n "class".toList with
  | none => simp [words, pieces]
  | some value => simp

/-- **Testing a compound** decides what the compound says. -/
theorem Compound.holds_iff {c : Compound} {d : Document} {n : NodeId} :
    c.holds d n = true ↔ c.Describes d n := by
  have htag : c.tag.all (fun tag => d.tag n == tag) = true ↔
      ∀ tag, c.tag = some tag → d.tag n = tag := by
    cases c.tag <;> simp
  simp only [holds, Bool.and_eq_true, htag, List.all_eq_true, beq_iff_eq, List.contains_iff_mem,
    mem_classesOf_iff, AttributeTest.accepts_iff]
  constructor
  · rintro ⟨⟨⟨⟨helement, htag⟩, hids⟩, hclasses⟩, hattributes⟩
    exact ⟨helement, htag, hids, hclasses, hattributes⟩
  · rintro ⟨helement, htag, hids, hclasses, hattributes⟩
    exact ⟨⟨⟨⟨helement, htag⟩, hids⟩, hclasses⟩, hattributes⟩

/-! ## Chains -/

/-- How a combinator places the node `n` under the node `a`: directly below it, or anywhere
below it. -/
def Combinator.Joins (d : Document) (a n : NodeId) : Combinator → Prop
  | child => d.parent? n = some a
  | descendant => d.Above a n

namespace Complex

/-- The nodes `y 0`, …, `y k` are a chain of a complex selector with `k` combinators: the
compounds describe them in order, and the combinators place them in order. -/
structure IsChain (d : Document) (x : Complex) (y : Nat → NodeId) : Prop where
  describes : ∀ (i : Nat) (c : Compound), x.compounds[i]? = some c → c.Describes d (y i)
  joins : ∀ (i : Nat) (k : Combinator), x.combinators[i]? = some k → k.Joins d (y i) (y (i + 1))

/-- What holds of all entries of a list with one more entry behind them. -/
private lemma forall_getElem?_concat {α : Type} {P : Nat → α → Prop} {l : List α} {a : α} :
    (∀ i b, (l ++ [a])[i]? = some b → P i b) ↔
      (∀ i b, l[i]? = some b → P i b) ∧ P l.length a := by
  constructor
  · refine fun h => ⟨fun i b hb => h i b ?_, h _ _ (by simp)⟩
    rw [List.getElem?_append_left (List.getElem?_eq_some_iff.1 hb).1, hb]
  · rintro ⟨hl, ha⟩ i b hb
    rcases Nat.lt_trichotomy i l.length with hi | rfl | hi
    · rw [List.getElem?_append_left hi] at hb
      exact hl i b hb
    · simp only [List.getElem?_concat_length, Option.some.injEq] at hb
      exact hb ▸ ha
    · rw [List.getElem?_eq_none (by simp; omega)] at hb
      simp at hb

/-- A chain of a selector with one more combinator and compound is a chain of the selector and
one more node. -/
lemma isChain_extend_iff {d : Document} {left : Complex} {k : Combinator} {c : Compound}
    {y : Nat → NodeId} :
    (extend left k c).IsChain d y ↔
      left.IsChain d y ∧ k.Joins d (y left.combinators.length) (y (left.combinators.length + 1)) ∧
        c.Describes d (y (left.combinators.length + 1)) := by
  have hlength := left.length_compounds
  constructor
  · rintro ⟨hdescribes, hjoins⟩
    obtain ⟨hd, hc⟩ := forall_getElem?_concat.1 hdescribes
    obtain ⟨hj, hk⟩ := forall_getElem?_concat.1 hjoins
    rw [hlength] at hc
    exact ⟨⟨hd, hj⟩, hk, hc⟩
  · rintro ⟨⟨hd, hj⟩, hk, hc⟩
    rw [← hlength] at hc
    exact ⟨forall_getElem?_concat.2 ⟨hd, hc⟩, forall_getElem?_concat.2 ⟨hj, hk⟩⟩

/-- Whether nodes are a chain depends only on those that a compound speaks of. -/
lemma IsChain.congr {d : Document} {x : Complex} {y z : Nat → NodeId} (h : x.IsChain d y)
    (hyz : ∀ i ≤ x.combinators.length, z i = y i) : x.IsChain d z := by
  have hlength := x.length_compounds
  refine ⟨fun i c hc => ?_, fun i k hk => ?_⟩
  · have hi := (List.getElem?_eq_some_iff.1 hc).1
    rw [hyz i (by omega)]
    exact h.describes i c hc
  · have hi := (List.getElem?_eq_some_iff.1 hk).1
    rw [hyz i (by omega), hyz (i + 1) (by omega)]
    exact h.joins i k hk

/-! ## Matching -/

lemma isElement_of_holds {d : Document} {x : Complex} {n : NodeId} (h : x.holds d n = true) :
    d.isElement n = true := by
  cases x with
  | single c => exact (Compound.holds_iff.1 h).isElement
  | extend left k c =>
    cases k <;>
    · rw [holds, Bool.and_eq_true] at h
      exact (Compound.holds_iff.1 h.1).isElement

/-- One step of matching: the last compound describes the node, and the rest of the selector
matches some node above it that the combinator allows. -/
lemma holds_extend_iff {d : Document} {left : Complex} {k : Combinator} {c : Compound}
    {n : NodeId} :
    (extend left k c).holds d n = true ↔
      c.Describes d n ∧ ∃ a, k.Joins d a n ∧ left.holds d a = true := by
  cases k with
  | child =>
    simp only [holds, Bool.and_eq_true, Compound.holds_iff, Option.any_eq_true,
      Document.parentElement?_eq_some_iff, Combinator.Joins]
    refine and_congr_right fun _ => exists_congr fun a => ?_
    exact ⟨fun h => ⟨h.1.1, h.2⟩, fun h => ⟨⟨h.1, isElement_of_holds h.2⟩, h.2⟩⟩
  | descendant =>
    simp only [holds, Bool.and_eq_true, Compound.holds_iff, List.any_eq_true,
      Document.mem_ancestors_iff, Combinator.Joins]
    refine and_congr_right fun _ => exists_congr fun a => and_congr_right fun _ => ?_
    exact ⟨fun h => h.2, fun h => ⟨isElement_of_holds h, h⟩⟩

/-- **Matching decides whether a chain exists.** A node satisfies a complex selector exactly if it
is the last node of a chain of the selector: elements described by the compounds in order, each the
parent of the next one or anywhere above it, as the combinator between them says.

**Proof sketch.** By induction on the selector, for all nodes. A step of matching finds a node
above the given one that the rest of the selector matches (`holds_extend_iff`); the chain that
the rest has there is continued with the given node, and conversely a chain without its last node
is a chain of the rest (`isChain_extend_iff`). -/
theorem holds_iff_exists_chain (d : Document) (x : Complex) (n : NodeId) :
    x.holds d n = true ↔
      ∃ y : Nat → NodeId, y x.combinators.length = n ∧ x.IsChain d y := by
  induction x generalizing n with
  | single c =>
    constructor
    · intro h
      refine ⟨fun _ => n, rfl, ⟨fun i c' hc' => ?_, fun i k hk => by simp [combinators] at hk⟩⟩
      rw [compounds, List.getElem?_singleton] at hc'
      split at hc'
      · simp only [Option.some.injEq] at hc'
        exact Compound.holds_iff.1 (hc' ▸ h)
      · simp at hc'
    · rintro ⟨y, rfl, hy⟩
      exact Compound.holds_iff.2 (hy.describes 0 c rfl)
  | extend left k c ih =>
    have hlength : (extend left k c).combinators.length = left.combinators.length + 1 := by
      simp [combinators]
    rw [holds_extend_iff, hlength]
    constructor
    · rintro ⟨hc, a, hk, ha⟩
      obtain ⟨y, hya, hy⟩ := (ih a).1 ha
      have hlast : ¬ left.combinators.length + 1 ≤ left.combinators.length := Nat.not_succ_le_self _
      refine ⟨fun i => if i ≤ left.combinators.length then y i else n, if_neg hlast, ?_⟩
      refine isChain_extend_iff.2 ⟨hy.congr fun i hi => if_pos hi, ?_, ?_⟩
      · rw [if_pos (Nat.le_refl _), if_neg hlast, hya]
        exact hk
      · rw [if_neg hlast]
        exact hc
    · rintro ⟨y, rfl, hy⟩
      obtain ⟨hleft, hk, hc⟩ := isChain_extend_iff.1 hy
      exact ⟨hc, _, hk, (ih _).2 ⟨y, rfl, hleft⟩⟩

end Complex

end TreeQuery.Native
