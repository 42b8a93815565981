import Mathlib.Data.List.Basic
import TreeQuery.Native.Query
import TreeQuery.Proofs.Document.Order

set_option relaxedAutoImplicit false
set_option autoImplicit false

/-!
# The four questions of a document

A document is asked about a native selector in four ways: for the first node and for all nodes below
a node, about the node itself, and for the nearest node from it upwards. The four walks through the
tree are different, but they describe one relation between nodes and selectors, which does not
depend on where one starts.

## Main definitions

* `TreeQuery.Document.IsNearest` — the nearest node upwards of which something holds.
* `TreeQuery.Document.AnswersBy` — what the four answers have to do with one relation.

## Main results

* `TreeQuery.Document.selectAll_eq_filter` — a query below a node is the query below the document
  node, restricted.
* `TreeQuery.Document.questions_agree` — the four questions are answered alike.
-/

namespace TreeQuery.Document

open Native

variable {d : Document} {s : Text} {holds : NodeId → Bool} {a n x root : NodeId}

/-! ## Below a node -/

/-- What a native query gives are those of the nodes below its root that satisfy a selector. -/
lemma exists_of_selectAll {ns : List NodeId} (h : d.selectAll root s = .ok ns) :
    ∃ list : SelectorList, ns = (d.descendants root).filter fun n => list.holds d n := by
  unfold selectAll at h
  cases hparse : SelectorList.parse s with
  | error e =>
    rw [hparse] at h
    simp [Except.map] at h
  | ok list =>
    rw [hparse] at h
    exact ⟨list, (Except.ok.inj h).symm⟩

lemma pairwise_lt_descendants (d : Document) (root : NodeId) :
    (d.descendants root).Pairwise (· < ·) := List.pairwise_lt_range.filter _

/-- A native query gives nodes in document order. -/
lemma pairwise_lt_of_selectAll {ns : List NodeId} (h : d.selectAll root s = .ok ns) :
    ns.Pairwise (· < ·) := by
  obtain ⟨list, rfl⟩ := exists_of_selectAll h
  exact (pairwise_lt_descendants d root).filter _

/-- The first element that a native selector finds is the head of all elements it finds. -/
lemma selectFirst_eq_head?_selectAll (d : Document) (root : NodeId) (s : Text) :
    d.selectFirst root s = (d.selectAll root s).map List.head? := by
  unfold selectFirst selectAll
  cases SelectorList.parse s with
  | error e => rfl
  | ok list => exact congrArg Except.ok List.head?_filter.symm

/-- The nodes below a node are those of all nodes that lie below it. -/
lemma descendants_eq_filter_descendants (d : Document) (root : NodeId) :
    d.descendants root = (d.descendants 0).filter fun x => d.Above root x := by
  rw [descendants_eq_filter, descendants_eq_filter, List.filter_filter]
  refine List.filter_congr fun x hx => ?_
  rw [Bool.eq_iff_iff, Bool.and_eq_true, decide_eq_true_iff, List.contains_iff_mem,
    List.contains_iff_mem, mem_ancestors_iff, mem_ancestors_iff]
  refine ⟨fun h => ⟨h, ?_⟩, And.left⟩
  exact .trans_right (within_zero (Nat.lt_trans h.lt (List.mem_range.1 hx))) h

/-- **Matching does not depend on where one starts**: a query below a node gives those of all nodes
in the document that lie below it. -/
theorem selectAll_eq_filter (d : Document) (root : NodeId) (s : Text) :
    d.selectAll root s = (d.selectAll 0 s).map fun ns => ns.filter fun x => d.Above root x := by
  unfold selectAll
  cases SelectorList.parse s with
  | error e => rfl
  | ok list =>
    rw [descendants_eq_filter_descendants]
    exact congrArg Except.ok (List.filter_comm _ _ _)

/-! ## Upwards -/

/-- The node `a` is the nearest one of which something holds, from the node `x` upwards: it is `x`
or lies above it, and all others on this way lie above `a`. -/
structure IsNearest (d : Document) (holds : NodeId → Bool) (x a : NodeId) : Prop where
  within : d.Within a x
  satisfied : holds a = true
  nearest : ∀ b, d.Within b x → holds b = true → d.Within b a

lemma IsNearest.unique {a' : NodeId} (h : d.IsNearest holds x a) (h' : d.IsNearest holds x a') :
    a = a' :=
  Nat.le_antisymm (h'.nearest a h.within h.satisfied).le
    (h.nearest a' h'.within h'.satisfied).le

/-- Going up finds the nearest node. -/
lemma isNearest_of_find? (h : (x :: d.ancestors x).find? holds = some a) :
    d.IsNearest holds x a := by
  induction x using Nat.strongRecOn with
  | ind x ih =>
    rw [List.find?_cons] at h
    cases hx : holds x with
    | true =>
      rw [hx] at h
      obtain rfl := Option.some.inj h
      exact ⟨.refl, hx, fun b hb _ => hb⟩
    | false =>
      rw [hx] at h
      cases hp : d.parent? x with
      | none =>
        rw [ancestors_of_parent?_eq_none hp] at h
        simp at h
      | some p =>
        rw [ancestors_of_parent? hp] at h
        obtain ⟨hwithin, ha, hnearest⟩ := ih p (parent?_lt hp) h
        refine ⟨hwithin.tail hp, ha, fun b hb hholds => ?_⟩
        have hne : b ≠ x := by
          rintro rfl
          simp [hx] at hholds
        exact hnearest b (hb.parent hne hp) hholds

lemma find?_eq_some_iff : (x :: d.ancestors x).find? holds = some a ↔ d.IsNearest holds x a := by
  refine ⟨isNearest_of_find?, fun h => ?_⟩
  cases hfound : (x :: d.ancestors x).find? holds with
  | none =>
    have hnone := List.find?_eq_none.1 hfound a (mem_cons_ancestors_iff.2 h.within)
    exact absurd h.satisfied hnone
  | some a' => rw [h.unique (isNearest_of_find? hfound)]

/-- A node is its own nearest one exactly if it has the property. -/
lemma isNearest_self_iff : d.IsNearest holds x x ↔ holds x = true :=
  ⟨fun h => h.satisfied, fun h => ⟨.refl, h, fun _ hb _ => hb⟩⟩

lemma find?_eq_none_iff :
    (x :: d.ancestors x).find? holds = none ↔ ∀ a, d.Within a x → holds a = false := by
  simp only [List.find?_eq_none, mem_cons_ancestors_iff, Bool.not_eq_true]

/-! ## All questions -/

/-- The four questions about the selector `s` are answered by what holds of the nodes. -/
structure AnswersBy (d : Document) (s : Text) (holds : NodeId → Bool) : Prop where
  /-- The node itself. -/
  satisfies : ∀ n, d.satisfies n s = .ok (holds n)
  /-- All nodes below a node, each once, in document order. -/
  selectAll : ∀ root, ∃ ns, d.selectAll root s = .ok ns ∧ ns.Pairwise (· < ·) ∧
    ∀ x, x ∈ ns ↔ d.Above root x ∧ holds x = true
  /-- The first one of these. -/
  selectFirst : ∀ root, d.selectFirst root s = (d.selectAll root s).map List.head?
  /-- The nearest node from a node upwards, if there is one. -/
  closest : ∀ n, ∃ found, d.closest n s = .ok found ∧
    (∀ a, found = some a ↔ d.IsNearest holds n a) ∧
    (found = none ↔ ∀ a, d.Within a n → holds a = false)

/-- What is no native selector is rejected by all four questions, with the same error. -/
lemma eq_error_of_parse {e : InvalidSelector} (h : SelectorList.parse s = .error e) (d : Document)
    (n : NodeId) : d.selectFirst n s = .error e ∧ d.selectAll n s = .error e ∧
      d.satisfies n s = .error e ∧ d.closest n s = .error e := by
  unfold selectFirst selectAll satisfies closest
  rw [h]
  exact ⟨rfl, rfl, rfl, rfl⟩

/-- The questions about a native selector are answered by what it holds of. -/
lemma answersBy_of_parse {list : SelectorList} (h : SelectorList.parse s = .ok list)
    (d : Document) : d.AnswersBy s (list.holds d) where
  satisfies n := by
    rw [Document.satisfies, h]
    rfl
  selectAll root := by
    refine ⟨(d.descendants root).filter (list.holds d), ?_, ?_, fun x => ?_⟩
    · rw [Document.selectAll, h]
      rfl
    · exact (pairwise_lt_descendants d root).filter _
    · rw [List.mem_filter, mem_descendants_iff]
  selectFirst root := d.selectFirst_eq_head?_selectAll root s
  closest n := by
    refine ⟨(n :: d.ancestors n).find? (list.holds d), ?_, fun a => find?_eq_some_iff,
      find?_eq_none_iff⟩
    rw [Document.closest, h]
    rfl

/-- A text is rejected by all questions, or all of them are answered. -/
lemma rejected_or_answersBy (d : Document) (s : Text) :
    (∃ e, ∀ n, d.selectFirst n s = .error e ∧ d.selectAll n s = .error e ∧
        d.satisfies n s = .error e ∧ d.closest n s = .error e) ∨
      ∃ holds, d.AnswersBy s holds := by
  cases h : SelectorList.parse s with
  | error e => exact .inl ⟨e, eq_error_of_parse h d⟩
  | ok list => exact .inr ⟨list.holds d, answersBy_of_parse h d⟩

/-- The query for all nodes below a node gives those of them that are their own nearest node. -/
lemma mem_selectAll_iff {ns : List NodeId} (hns : d.selectAll root s = .ok ns) :
    x ∈ ns ↔ d.closest x s = .ok (some x) ∧ d.Above root x := by
  rcases d.rejected_or_answersBy s with ⟨e, he⟩ | ⟨holds, h⟩
  · rw [(he root).2.1] at hns
    simp at hns
  · obtain ⟨ns', hns', -, hmem⟩ := h.selectAll root
    obtain rfl : ns' = ns := Except.ok.inj (hns'.symm.trans hns)
    obtain ⟨found, hfound, hsome, -⟩ := h.closest x
    rw [hmem, hfound, Except.ok.injEq, hsome, isNearest_self_iff]
    exact and_comm

/-- In a document from markup the query for all nodes gives them in the order of the tree. -/
lemma pairwise_precedes_of_selectAll (hd : d.InOrder) {ns : List NodeId}
    (hns : d.selectAll root s = .ok ns) : ns.Pairwise d.Precedes := by
  refine (pairwise_lt_of_selectAll hns).imp_of_mem fun _ hy hlt => ?_
  exact precedes_of_lt hd hlt ((mem_selectAll_iff hns).1 hy).2.lt_size

/-- **The four questions are answered alike**, for every document and every text. Either the text is
rejected by all of them at all nodes, with the same error; or there is a property of nodes such that
a node satisfies the selector if it has the property, the query for all nodes below a node gives
those that have it, each once and in document order, the query for the first node gives the first
one of these, and the query upwards gives the nearest node that has it. Where one starts does not
matter: a query below a node is the query below the document node, restricted to what lies below the
node, and it gives the nodes below it that are their own nearest node. In documents from markup the
order of numbers is the order of the tree.

**Proof sketch.** The property is what the parsed list holds of (`answersBy_of_parse`). All nodes
with something above them lie below the document node (`selectAll_eq_filter`), and a node has the
property exactly if it is its own nearest node. -/
theorem questions_agree (d : Document) (s : Text) :
    ((∃ e, ∀ n, d.selectFirst n s = .error e ∧ d.selectAll n s = .error e ∧
        d.satisfies n s = .error e ∧ d.closest n s = .error e) ∨
      ∃ holds, d.AnswersBy s holds) ∧
    (∀ root, d.selectAll root s =
      (d.selectAll 0 s).map fun ns => ns.filter fun x => d.Above root x) ∧
    ∀ root ns, d.selectAll root s = .ok ns →
      (∀ x, x ∈ ns ↔ d.closest x s = .ok (some x) ∧ d.Above root x) ∧
      ∀ markup, ofMarkup markup = .ok d → ns.Pairwise d.Precedes := by
  refine ⟨d.rejected_or_answersBy s, fun root => d.selectAll_eq_filter root s,
    fun root ns hns => ⟨fun x => mem_selectAll_iff hns, fun markup hmarkup => ?_⟩⟩
  exact pairwise_precedes_of_selectAll (inOrder_of_ofMarkup hmarkup) hns

/-- A document from markup, with two elements of which the second one comes behind the element that
holds the first one. -/
theorem questions_agree_cousins :
    let markup : Text := "<r><a>t<b/></a><b/></r>".toList
    let d : Document := ⟨#[⟨0, .element ['r'] []⟩, ⟨1, .element ['a'] []⟩, ⟨2, .text ['t']⟩,
      ⟨2, .element ['b'] []⟩, ⟨1, .element ['b'] []⟩], by decide⟩
    let s : Text := ['r', ' ', 'b']
    ofMarkup markup = .ok d ∧ d.selectAll 1 s = .ok [4, 5] ∧ d.Precedes 4 5 ∧
      d.closest 4 s = .ok (some 4) ∧ d.selectAll 2 s = .ok [4] := by
  intro markup d s
  have hmarkup : ofMarkup markup = .ok d := by decide +kernel
  have hall : d.selectAll 1 s = .ok [4, 5] := by decide +kernel
  have hinner : d.selectAll 2 s = .ok [4] := by decide +kernel
  obtain ⟨-, -, hlist⟩ := questions_agree d s
  obtain ⟨hmem, horder⟩ := hlist 1 [4, 5] hall
  exact ⟨hmarkup, hall, List.rel_of_pairwise_cons (horder markup hmarkup) (by simp),
    ((hmem 4).1 (by simp)).1, hinner⟩

end TreeQuery.Document
