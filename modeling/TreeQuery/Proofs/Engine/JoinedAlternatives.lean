import TreeQuery.Proofs.Context.Nearest
import TreeQuery.Proofs.Engine.Candidates
import TreeQuery.Proofs.Engine.FirstAlternative

set_option relaxedAutoImplicit false
set_option autoImplicit false

/-!
# Alternatives and their joined text

The nodes that satisfy one of several native selectors can be asked for in two ways. The engine asks
for one alternative after the other and puts together what they find, each node once. The document
is asked once, for the joined text of all alternatives, which it reads as one list of selectors. The
two ways find the same nodes, the one in the order of the alternatives and the other in the order of
the document.

## Main definitions

* `TreeQuery.Engine.FindsSame` — how the two ways are related.

## Main results

* `TreeQuery.Document.exists_selectAll_joined` — asking for the joined text.
* `TreeQuery.Engine.exists_queryAll_native` — asking for native alternatives one by one.
* `TreeQuery.Engine.alternatives_agree_joined` — the two ways find the same nodes.
-/

namespace TreeQuery

open Native

/-! ## Asking for the joined text -/

namespace Document

/-- The nodes that a text finds below a node, none if it is no native selector. -/
def selected (d : Document) (root : NodeId) (s : Text) : List NodeId :=
  (d.selectAll root s).toOption.getD []

variable {d : Document} {root n : NodeId} {s : Text}

lemma selectAll_eq_selected (h : ¬ Rejected s) : d.selectAll root s = .ok (d.selected root s) := by
  obtain ⟨list, hlist⟩ := not_rejected_iff.1 h
  rw [selected, selectAll, hlist]
  rfl

/-- A text finds the nodes below the root that satisfy it. -/
lemma mem_selected_iff : n ∈ d.selected root s ↔ d.Above root n ∧ d.satisfies n s = .ok true := by
  rcases d.rejected_or_answersBy s with ⟨e, he⟩ | ⟨holds, h⟩
  · rw [selected, (he root).2.1, (he n).2.2.1]
    simp [Except.toOption]
  · obtain ⟨ns, hns, -, hmem⟩ := h.selectAll root
    rw [selected, hns, h.satisfies n, Except.ok.injEq]
    exact hmem n

/-- **Asking for the joined text** of native selectors that end in spaces gives the nodes below the
root that satisfy one of them, in the order of the document. -/
theorem exists_selectAll_joined {alternatives : Alternatives} (hne : alternatives ≠ [])
    (hvalid : ∀ a ∈ alternatives, ¬ Rejected a) (hends : ∀ a ∈ alternatives, EndsInSpaces a)
    (d : Document) (root : NodeId) :
    ∃ ns, d.selectAll root alternatives.joined = .ok ns ∧ ns.Pairwise (· < ·) ∧
      ∀ n, n ∈ ns ↔ ∃ a ∈ alternatives, n ∈ d.selected root a := by
  obtain ⟨lists, hlists⟩ := exists_lists_iff.2 hvalid
  obtain ⟨ns, hns, hsorted, hmem⟩ :=
    (answersBy_of_parse (parse_joined hne hlists hends) d).selectAll root
  refine ⟨ns, hns, hsorted, fun n => ?_⟩
  rw [hmem, holds_flatten hlists, satisfiesAny_iff]
  simp only [mem_selected_iff]
  constructor
  · rintro ⟨habove, a, ha, hsatisfies⟩
    exact ⟨a, ha, habove, hsatisfies⟩
  · rintro ⟨a, ha, habove, hsatisfies⟩
    exact ⟨habove, a, ha, hsatisfies⟩

end Document

namespace Engine

/-! ## Asking for one alternative after the other -/

/-- **Asking for native alternatives** one by one: none fails, their matches are the union of what
the document finds for each of them, and the first of all matches is the match asked for. -/
theorem exists_queryAll_native {q : Engine} {alternatives : Alternatives}
    (hnative : ∀ a ∈ alternatives, q.hasPseudo a = false)
    (hvalid : ∀ a ∈ alternatives, ¬ Rejected a) (d : Document) (root : NodeId) :
    ∃ ms, (q.queryAll d root alternatives true).result = .ok ms ∧
      alternatives.IsUnion (d.selected root) ms ∧
      (q.query d root alternatives).result = .ok ms.head? := by
  have hfound : ∀ a ∈ alternatives, q.found d root true a = .ok (d.selected root a) := by
    intro a ha
    rw [found, if_pos rfl, findAll_of_native (by simp [hnative a ha]),
      Document.selectAll_eq_selected (hvalid a ha)]
    rfl
  obtain ⟨ms, hms, hunion⟩ := exists_collect hfound []
  refine ⟨ms, hms, hunion, result_query_of_heads (fun a ha ns hns => ?_) hms⟩
  obtain rfl : d.selected root a = ns := Except.ok.inj ((hfound a ha).symm.trans hns)
  rw [findFirst_of_native (by simp [hnative a ha]), Document.selectFirst_eq_head?_selectAll,
    Document.selectAll_eq_selected (hvalid a ha)]
  rfl

/-! ## The two ways -/

/-- How the two ways of asking below a root are related, `ms` being what the engine finds for the
alternatives and `ns` what the document finds for their joined text. -/
structure FindsSame (q : Engine) (d : Document) (root : NodeId) (alternatives : Alternatives)
    (ms : List Match) (ns : List NodeId) : Prop where
  queryAll : (q.queryAll d root alternatives true).result = .ok ms
  selectAll : d.selectAll root alternatives.joined = .ok ns
  /-- The nodes are the same, and no node is found twice. -/
  perm : (ms.map (·.node)).Perm ns
  /-- The document gives them in its own order. -/
  sorted : ns.Pairwise (· < ·)
  /-- The engine gives them in the order of the alternatives, each with the first alternative that
  finds it, and those with the same alternative in the order in which this finds them. -/
  union : alternatives.IsUnion (d.selected root) ms
  /-- The query for the first match gives the first match of the engine. -/
  query : (q.query d root alternatives).result = .ok ms.head?
  /-- The document asked for the first node gives the first node in its own order. -/
  selectFirst : d.selectFirst root alternatives.joined = .ok ns.head?

/-- One of the two ways finds something exactly if the other does. -/
lemma FindsSame.isSome_head?_iff {q : Engine} {d : Document} {root : NodeId}
    {alternatives : Alternatives} {ms : List Match} {ns : List NodeId}
    (h : q.FindsSame d root alternatives ms ns) :
    ms.head?.isSome = true ↔ ns.head?.isSome = true := by
  have hlength : ms.length = ns.length := by simpa using h.perm.length_eq
  cases ms <;> cases ns <;> simp at hlength ⊢

/-- **Alternatives find the same nodes as their joined text**, if there are any, none of them passes
the gate, each is a native selector by itself, and the blanks at their ends are spaces of the
grammar. The matches of the engine are the nodes that the document finds for the joined text, in
another order: the document gives them in its own order, which in documents from markup is the order
of the tree, and the engine in the order of the alternatives, each node with the first alternative
that finds it. If only the first match is asked for, the one finds something exactly if the other
does.

**Proof sketch.** Without pseudo-selectors an alternative contributes what the document finds for
it, and the engine computes the union. The joined text is read as the selectors of all alternatives,
in order, and so it holds of the nodes that satisfy one of them. Neither list has a node twice. -/
theorem alternatives_agree_joined (q : Engine) (d : Document) (root : NodeId)
    {alternatives : Alternatives} (hne : alternatives ≠ [])
    (hnative : ∀ a ∈ alternatives, q.hasPseudo a = false)
    (hvalid : ∀ a ∈ alternatives, ¬ Rejected a) (hends : ∀ a ∈ alternatives, EndsInSpaces a) :
    ∃ ms ns, q.FindsSame d root alternatives ms ns ∧
      (∀ markup, Document.ofMarkup markup = .ok d → ns.Pairwise d.Precedes) ∧
      ((∃ m, (q.query d root alternatives).result = .ok (some m)) ↔
        ∃ n, d.selectFirst root alternatives.joined = .ok (some n)) := by
  obtain ⟨ms, hms, hunion, hquery⟩ := exists_queryAll_native hnative hvalid d root
  obtain ⟨ns, hns, hsorted, hmem⟩ := Document.exists_selectAll_joined hne hvalid hends d root
  have hperm : (ms.map (·.node)).Perm ns := by
    refine (List.perm_ext_iff_of_nodup hunion.nodup (hsorted.imp Nat.ne_of_lt)).2 fun n => ?_
    rw [hunion.mem_iff, hmem]
    simp
  have hfirst : d.selectFirst root alternatives.joined = .ok ns.head? := by
    rw [Document.selectFirst_eq_head?_selectAll, hns]
    rfl
  have hsame : q.FindsSame d root alternatives ms ns :=
    ⟨hms, hns, hperm, hsorted, hunion, hquery, hfirst⟩
  refine ⟨ms, ns, hsame, fun markup hmarkup => ?_, ?_⟩
  · exact Document.pairwise_precedes_of_selectAll (Document.inOrder_of_ofMarkup hmarkup) hns
  · simp only [hquery, hfirst, Except.ok.injEq, ← Option.isSome_iff_exists]
    exact hsame.isSome_head?_iff

/-- Alternatives that end in spaces, one of them with a comma inside quotes and one with a comma
between selectors; all of them find nodes that others find as well, and the engine finds the nodes
in another order than the document. -/
theorem alternatives_agree_joined_overlapping :
    let markup : Text := "<r><a k=', '/><b/><a/></r>".toList
    let d : Document := ⟨#[⟨0, .element ['r'] []⟩,
      ⟨1, .element ['a'] [⟨['k'], [',', ' ']⟩]⟩, ⟨1, .element ['b'] []⟩, ⟨1, .element ['a'] []⟩],
      by decide⟩
    let q : Engine := ⟨.default, .standard⟩
    let alternatives : Alternatives := [" b\t".toList, "a[k=', '] , b".toList, "\na".toList]
    Document.ofMarkup markup = .ok d ∧
      (q.queryAll d 1 alternatives true).result = .ok [⟨3, " b\t".toList⟩,
        ⟨2, "a[k=', '] , b".toList⟩, ⟨4, "\na".toList⟩] ∧
      d.selectAll 1 alternatives.joined = .ok [2, 3, 4] ∧
      [3, 2, 4].Perm [2, 3, 4] ∧ d.Precedes 2 3 ∧
      (q.query d 1 alternatives).result = .ok (some ⟨3, " b\t".toList⟩) ∧
      d.selectFirst 1 alternatives.joined = .ok (some 2) := by
  intro markup d q alternatives
  have hmarkup : Document.ofMarkup markup = .ok d := by decide +kernel
  have hall : (q.queryAll d 1 alternatives true).result = .ok [⟨3, " b\t".toList⟩,
      ⟨2, "a[k=', '] , b".toList⟩, ⟨4, "\na".toList⟩] := by decide +kernel
  have hjoined : d.selectAll 1 alternatives.joined = .ok [2, 3, 4] := by decide +kernel
  obtain ⟨ms, ns, hsame, horder, -⟩ := alternatives_agree_joined q d 1
    (List.cons_ne_nil _ _ : alternatives ≠ []) (by decide +kernel) (by decide +kernel)
    (by decide +kernel)
  obtain rfl := Except.ok.inj (hall.symm.trans hsame.queryAll)
  obtain rfl := Except.ok.inj (hjoined.symm.trans hsame.selectAll)
  exact ⟨hmarkup, hall, hjoined, hsame.perm,
    List.rel_of_pairwise_cons (horder markup hmarkup) (by simp), hsame.query, hsame.selectFirst⟩

end Engine

end TreeQuery
