import Mathlib.Data.List.Permutation
import TreeQuery.Context
import TreeQuery.Proofs.Engine.FirstMatch
import TreeQuery.Proofs.Engine.Union

set_option relaxedAutoImplicit false
set_option autoImplicit false

/-!
# The first alternative that finds anything

Alternatives can be asked in three ways: for the first match of the first alternative that finds
anything, for one match of each, or for all matches of all. The first way stops at an alternative
that finds something and does not look at the ones behind it, which the other two do; so it gives
an answer more often, and where the others give one it is the first of theirs. All three are
settled by what every single alternative finds, because with the standard registry the first match
of a selector is the head of all its matches.

## Main definitions

* `TreeQuery.Engine.PathsAgree` — how the three ways are related.

## Main results

* `TreeQuery.Engine.query_append_of_found` — what stands behind a successful alternative is of no
  account.
* `TreeQuery.Engine.query_eq_error_iff` — when the query for the first match fails.
* `TreeQuery.Engine.result_query_of_heads`, `TreeQuery.Engine.result_query_of_collect` — the first of
  all matches is the match asked for.
* `TreeQuery.Engine.query_agrees_queryAll` — the three ways agree.
-/

namespace TreeQuery.Engine

open Alternatives

/-! ## One step of asking for the first match -/

section Steps

variable {q : Engine} {d : Document} {root : NodeId} {s : Text}

lemma query_cons (q : Engine) (d : Document) (root : NodeId) (s : Text)
    (alternatives : Alternatives) :
    q.query d root (s :: alternatives) = q.findFirst d root s >>= fun n =>
      match n with
      | some n => .ok (some ⟨n, s⟩)
      | none => q.query d root alternatives := rfl

/-- An alternative that finds something ends the query. -/
lemma query_of_some {n : NodeId} (h : (q.findFirst d root s).result = .ok (some n))
    (alternatives : Alternatives) :
    q.query d root (s :: alternatives) =
      ⟨.ok (some ⟨n, s⟩), (q.findFirst d root s).effects⟩ := by
  rw [query_cons, Eval.bind_of_ok h]
  simp [Eval.ok]

/-- An alternative that finds nothing leaves the answer to the others. -/
lemma result_query_of_none (h : (q.findFirst d root s).result = .ok none)
    (alternatives : Alternatives) :
    (q.query d root (s :: alternatives)).result = (q.query d root alternatives).result := by
  rw [query_cons, Eval.bind_of_ok h]

/-- An alternative that fails ends the query. -/
lemma result_query_of_error {e : QueryError} (h : (q.findFirst d root s).result = .error e)
    (alternatives : Alternatives) :
    (q.query d root (s :: alternatives)).result = .error e := by
  rw [query_cons, Eval.bind_of_error h]

end Steps

/-! ## Where asking for the first match ends -/

section Ends

variable {q : Engine} {d : Document} {root : NodeId}

/-- **What stands behind a successful alternative is of no account**, neither for the answer nor
for the effects. -/
theorem query_append_of_found {a : Text} {n : NodeId}
    (h : (q.findFirst d root a).result = .ok (some n)) (before after : Alternatives) :
    q.query d root (before ++ a :: after) = q.query d root (before ++ [a]) := by
  induction before with
  | nil => exact (query_of_some h after).trans (query_of_some h []).symm
  | cons b before ih =>
    have hcons : ∀ rest, q.query d root (b :: before ++ rest) = q.findFirst d root b >>= fun n =>
        match n with
        | some n => .ok (some ⟨n, b⟩)
        | none => q.query d root (before ++ rest) := by
      intro rest
      exact query_cons q d root b (before ++ rest)
    rw [hcons, hcons, ih]

/-- **The query for the first match fails** exactly if some alternative does and all alternatives
before it find nothing. -/
theorem query_eq_error_iff {alternatives : Alternatives} {e : QueryError} :
    (q.query d root alternatives).result = .error e ↔
      alternatives.LeadsTo (fun b => (q.findFirst d root b).result = .ok none)
        fun a => (q.findFirst d root a).result = .error e := by
  induction alternatives with
  | nil =>
    refine iff_of_false ?_ leadsTo_nil
    rw [query, Eval.pure_eq]
    simp [Eval.ok]
  | cons s alternatives ih =>
    rw [leadsTo_cons]
    cases hs : (q.findFirst d root s).result with
    | error e' =>
      rw [result_query_of_error hs]
      simp
    | ok found =>
      cases found with
      | some n =>
        rw [query_of_some hs]
        simp
      | none =>
        rw [result_query_of_none hs, ih]
        simp

/-- The match asked for is attributed to an alternative that was given. -/
lemma alternative_mem_of_query {alternatives : Alternatives} {m : Match}
    (h : (q.query d root alternatives).result = .ok (some m)) : m.alternative ∈ alternatives := by
  induction alternatives with
  | nil => exact nomatch Except.ok.inj h
  | cons s alternatives ih =>
    cases hs : (q.findFirst d root s).result with
    | error e =>
      rw [result_query_of_error hs] at h
      exact nomatch h
    | ok found =>
      cases found with
      | some n =>
        rw [query_of_some hs] at h
        obtain rfl : ⟨n, s⟩ = m := Option.some.inj (Except.ok.inj h)
        exact List.mem_cons_self
      | none =>
        rw [result_query_of_none hs] at h
        exact List.mem_cons_of_mem s (ih h)

/-- The first of all matches is the match asked for, if the first match of every alternative is the
first of the nodes it contributes.

**Proof sketch.** By induction on the alternatives. As long as they find nothing no node has been
seen, so that the first match of the first one that finds something is fresh. -/
lemma result_query_of_heads {greedy : Bool} {alternatives : Alternatives} {ms : List Match}
    (hheads : ∀ a ∈ alternatives, ∀ ns, q.found d root greedy a = .ok ns →
      (q.findFirst d root a).result = .ok ns.head?)
    (h : (q.collect d root greedy [] alternatives).result = .ok ms) :
    (q.query d root alternatives).result = .ok ms.head? := by
  induction alternatives generalizing ms with
  | nil =>
    obtain rfl : [] = ms := Except.ok.inj h
    rfl
  | cons s alternatives ih =>
    obtain ⟨hs, halternatives⟩ := List.forall_mem_cons.1 hheads
    obtain ⟨ns, rest, hfound, hrest, rfl⟩ := exists_of_collect_cons h
    have hfirst := hs ns hfound
    cases ns with
    | nil =>
      rw [result_query_of_none hfirst]
      exact ih halternatives hrest
    | cons n ns =>
      rw [query_of_some hfirst]
      simp [unseen]

end Ends

/-! ## What one alternative contributes -/

/-- What an alternative contributes that finds the given nodes: all of them, or only the first
one. -/
def portion (greedy : Bool) (ns : List NodeId) : List NodeId :=
  if greedy then ns else ns.head?.toList

@[simp] lemma portion_nil (greedy : Bool) : portion greedy [] = [] := by
  cases greedy <;> rfl

/-- Whatever is asked for, the first node is the first of what is contributed. -/
lemma head?_portion (greedy : Bool) (ns : List NodeId) : (portion greedy ns).head? = ns.head? := by
  cases greedy with
  | true => rfl
  | false => cases ns <;> rfl

/-- If only first matches are asked for, an alternative contributes at most one node. -/
lemma length_portion_false (ns : List NodeId) : (portion false ns).length ≤ 1 := by
  cases ns <;> simp [portion]

lemma eq_of_mem_portion_false {ns : List NodeId} {n n' : NodeId} (h : n ∈ portion false ns)
    (h' : n' ∈ portion false ns) : n = n' := by
  cases ns with
  | nil => simp at h
  | cons m ns =>
    have hportion : portion false (m :: ns) = [m] := rfl
    rw [hportion, List.mem_singleton] at h h'
    exact h.trans h'.symm

/-- The first match of an alternative is among all its matches. -/
lemma portion_subset (greedy : Bool) (ns : List NodeId) : portion greedy ns ⊆ ns := by
  cases greedy with
  | true => exact List.Subset.refl ns
  | false => cases ns <;> simp [portion]

section Standard

variable {t : Template} {d : Document} {root : NodeId} {greedy : Bool}

/-- What an alternative contributes is settled by all its matches. -/
lemma found_eq (t : Template) (d : Document) (root : NodeId) (greedy : Bool) (s : Text) :
    (Engine.mk t .standard).found d root greedy s =
      ((Engine.mk t .standard).findAll d root s).result.map (portion greedy) := by
  cases greedy with
  | true =>
    show ((Engine.mk t .standard).findAll d root s).result = _
    cases ((Engine.mk t .standard).findAll d root s).result <;> rfl
  | false =>
    show ((Engine.mk t .standard).findFirst d root s).result.map Option.toList = _
    rw [findFirst_eq_head?_findAll, Eval.result_map]
    cases ((Engine.mk t .standard).findAll d root s).result <;> rfl

/-- What an alternative contributes is taken from all its matches. -/
lemma exists_of_found {s : Text} {ns : List NodeId}
    (h : (Engine.mk t .standard).found d root greedy s = .ok ns) :
    ∃ all, ((Engine.mk t .standard).findAll d root s).result = .ok all ∧
      portion greedy all = ns := by
  rwa [found_eq, Eval.map_eq_ok_iff] at h

/-- A node that an alternative contributes is among those taken from all its matches. -/
lemma exists_of_mem_found {s : Text} {n : NodeId}
    (h : n ∈ ((Engine.mk t .standard).found d root greedy s).toOption.getD []) :
    ∃ all, ((Engine.mk t .standard).findAll d root s).result = .ok all ∧
      n ∈ portion greedy all := by
  cases hfound : (Engine.mk t .standard).found d root greedy s with
  | error e =>
    rw [hfound] at h
    simp [Except.toOption] at h
  | ok ns =>
    rw [hfound] at h
    obtain ⟨all, hall, rfl⟩ := exists_of_found hfound
    exact ⟨all, hall, h⟩

/-- An alternative fails to contribute exactly if the query for its first match fails. -/
lemma found_eq_error_iff {s : Text} {e : QueryError} :
    (Engine.mk t .standard).found d root greedy s = .error e ↔
      ((Engine.mk t .standard).findFirst d root s).result = .error e := by
  rw [found_eq, findFirst_eq_head?_findAll, Eval.result_map, Eval.map_eq_error_iff,
    Eval.map_eq_error_iff]

/-! ## The first of all matches -/

/-- **The first of all matches is the match asked for**, with its alternative. -/
theorem result_query_of_collect {alternatives : Alternatives} {ms : List Match}
    (h : ((Engine.mk t .standard).collect d root greedy [] alternatives).result = .ok ms) :
    ((Engine.mk t .standard).query d root alternatives).result = .ok ms.head? := by
  refine result_query_of_heads (fun a _ ns hns => ?_) h
  obtain ⟨all, hall, rfl⟩ := exists_of_found hns
  rw [findFirst_eq_head?_findAll, Eval.result_map, hall, head?_portion]
  rfl

/-! ## One match of each alternative -/

/-- If only first matches are asked for, the alternatives of the matches are some of those asked
for, in the same order: no place in the list of alternatives contributes more than one match. -/
lemma sublist_of_collect {alternatives : Alternatives} {seen : List NodeId} {ms : List Match}
    (h : ((Engine.mk t .standard).collect d root false seen alternatives).result = .ok ms) :
    (ms.map (·.alternative)).Sublist alternatives := by
  induction alternatives generalizing seen ms with
  | nil =>
    obtain rfl : [] = ms := Except.ok.inj h
    exact List.Sublist.refl []
  | cons s alternatives ih =>
    obtain ⟨contributed, rest, hfound, hrest, rfl⟩ := exists_of_collect_cons h
    obtain ⟨ns, -, rfl⟩ := exists_of_found hfound
    have hlength : (unseen seen (portion false ns)).length ≤ 1 :=
      Nat.le_trans (unseen_sublist seen _).length_le (length_portion_false ns)
    have hone : ((unseen seen (portion false ns)).map fun _ => s).Sublist [s] := by
      rw [List.map_const']
      exact (List.replicate_sublist_replicate s).2 hlength
    have hmap : ((unseen seen (portion false ns)).map (Match.mk · s) ++ rest).map
        (·.alternative) = (unseen seen (portion false ns)).map (fun _ => s) ++
          rest.map (·.alternative) := by
      simp [Function.comp_def]
    rw [hmap]
    exact hone.append (ih hrest)

/-- If only first matches are asked for, two matches never have the same alternative, even if the
same alternative is given twice.

**Proof sketch.** Two matches have different nodes, and an alternative contributes at most one. -/
lemma nodup_of_collect {alternatives : Alternatives} {ms : List Match}
    (h : ((Engine.mk t .standard).collect d root false [] alternatives).result = .ok ms) :
    (ms.map (·.alternative)).Nodup := by
  have hunion := isUnionBeyond_of_collect h
  have hnodes : ms.Pairwise fun m m' => m.node ≠ m'.node := List.pairwise_map.1 hunion.nodup
  -- A match is all that its alternative contributes.
  have honly : ∀ m ∈ ms, ∀ n, n ∈ ((Engine.mk t .standard).found d root false
      m.alternative).toOption.getD [] → n = m.node := by
    intro m hm n hn
    have hmem := List.find?_some (hunion.attributed m hm)
    rw [decide_eq_true_eq] at hmem
    obtain ⟨all, hall, hn⟩ := exists_of_mem_found hn
    obtain ⟨all', hall', hmem⟩ := exists_of_mem_found hmem
    rw [hall, Except.ok.injEq] at hall'
    exact eq_of_mem_portion_false hn (hall' ▸ hmem)
  refine List.pairwise_map.2 (hnodes.imp_of_mem ?_)
  intro m m' hm hm' hne halternative
  have hmem := List.find?_some (hunion.attributed m hm)
  rw [decide_eq_true_eq, halternative] at hmem
  exact hne (honly m' hm' m.node hmem)

/-- One match of each alternative: its nodes are among those of all matches, which are there if it
is. -/
lemma exists_collect_superset {alternatives : Alternatives} {ms : List Match}
    (h : ((Engine.mk t .standard).collect d root false [] alternatives).result = .ok ms) :
    ∃ ms', ((Engine.mk t .standard).collect d root true [] alternatives).result = .ok ms' ∧
      ms.map (·.node) ⊆ ms'.map (·.node) := by
  have hall : ∀ a ∈ alternatives, ∃ ns,
      ((Engine.mk t .standard).findAll d root a).result = .ok ns := by
    intro a ha
    obtain ⟨ns, hns⟩ := forall_found_of_collect h a ha
    obtain ⟨all, hall, -⟩ := exists_of_found hns
    exact ⟨all, hall⟩
  have hfinds : ∀ a ∈ alternatives, (Engine.mk t .standard).found d root true a =
      .ok (((Engine.mk t .standard).findAll d root a).result.toOption.getD []) := by
    intro a ha
    obtain ⟨ns, hns⟩ := hall a ha
    rw [found_eq, hns]
    rfl
  obtain ⟨ms', hms', hunion'⟩ := exists_collect hfinds []
  refine ⟨ms', hms', fun n hn => ?_⟩
  obtain ⟨hseen, a, ha, hna⟩ := ((isUnionBeyond_of_collect h).mem_iff n).1 hn
  refine (hunion'.mem_iff n).2 ⟨hseen, a, ha, ?_⟩
  obtain ⟨all, hns, hna⟩ := exists_of_mem_found hna
  rw [hns]
  exact portion_subset false all hna

/-- **All matches are there** exactly if no alternative fails, whether an alternative before it has
found something or not. -/
lemma exists_collect_eq_error_iff {alternatives : Alternatives} {seen : List NodeId} :
    (∃ e, ((Engine.mk t .standard).collect d root greedy seen alternatives).result = .error e) ↔
      ∃ a ∈ alternatives, ∃ e, ((Engine.mk t .standard).findFirst d root a).result = .error e := by
  constructor
  · rintro ⟨e, he⟩
    obtain ⟨before, a, after, rfl, -, ha⟩ := collect_eq_error_iff.1 he
    exact ⟨a, by simp, e, found_eq_error_iff.1 ha⟩
  · rintro ⟨a, ha, e, he⟩
    cases h : ((Engine.mk t .standard).collect d root greedy seen alternatives).result with
    | error e' => exact ⟨e', rfl⟩
    | ok ms =>
      obtain ⟨ns, hns⟩ := forall_found_of_collect h a ha
      rw [found_eq_error_iff.2 he] at hns
      simp at hns

end Standard

/-! ## The three ways -/

/-- How the three ways of asking alternatives below a root are related. -/
structure PathsAgree (q : Engine) (d : Document) (root : NodeId) (alternatives : Alternatives) :
    Prop where
  /-- The match asked for is the first of all matches, and also the first if there is one match of
  each alternative: with the same node and the same alternative, and none if there are none. -/
  query_eq_head? : ∀ greedy ms, (q.queryAll d root alternatives greedy).result = .ok ms →
    (q.query d root alternatives).result = .ok ms.head?
  /-- If there is one match of each alternative, then all matches are there, and its nodes are among
  theirs. -/
  nodes_subset : ∀ ms, (q.queryAll d root alternatives false).result = .ok ms →
    ∃ ms', (q.queryAll d root alternatives true).result = .ok ms' ∧
      ms.map (·.node) ⊆ ms'.map (·.node)
  /-- No place in the list of alternatives, and no alternative that is given more than once,
  contributes more than one match. -/
  at_most_one : ∀ ms, (q.queryAll d root alternatives false).result = .ok ms →
    (ms.map (·.alternative)).Sublist alternatives ∧ (ms.map (·.alternative)).Nodup
  /-- Asking for the first match fails exactly if an alternative does and those before it find
  nothing. -/
  query_fails_iff : ∀ e, (q.query d root alternatives).result = .error e ↔
    alternatives.LeadsTo (fun b => (q.findFirst d root b).result = .ok none)
      fun a => (q.findFirst d root a).result = .error e
  /-- What stands behind an alternative that finds something is not reported by the query for the
  first match, and has no effects in it. -/
  query_stops : ∀ before a n after, alternatives = before ++ a :: after →
    (q.findFirst d root a).result = .ok (some n) →
    q.query d root alternatives = q.query d root (before ++ [a])
  /-- An alternative that fails is always reported if more than the first match is asked for. -/
  queryAll_fails_iff : ∀ greedy,
    (∃ e, (q.queryAll d root alternatives greedy).result = .error e) ↔
      ∃ a ∈ alternatives, ∃ e, (q.findFirst d root a).result = .error e

/-- **The three ways of asking alternatives agree**, with the standard registry and for every
template, document, root and list of alternatives, and so they do for whoever asks through a
context.

**Proof sketch.** All three are settled by the matches of the single alternatives (`found_eq`). The
first fresh node of the first alternative that finds anything is its first match, for nothing has
been seen before (`result_query_of_collect`); and of equal alternatives the later ones find nothing
fresh (`nodup_of_collect`). -/
theorem query_agrees_queryAll (t : Template) (d : Document) (root : NodeId)
    (alternatives : Alternatives) :
    (Engine.mk t .standard).PathsAgree d root alternatives ∧
      ∀ (recording : Bool) (records : Table NodeId Text) (greedy : Bool) (hs : List Handle),
        let c : Context := ⟨t, .standard, recording, records⟩
        (c.queryAll ⟨d, root⟩ alternatives greedy).eval.result = .ok hs →
          (c.query ⟨d, root⟩ alternatives).eval.result = .ok hs.head? := by
  have hhead : ∀ greedy ms,
      ((Engine.mk t .standard).queryAll d root alternatives greedy).result = .ok ms →
        ((Engine.mk t .standard).query d root alternatives).result = .ok ms.head? :=
    fun greedy ms h => result_query_of_collect h
  refine ⟨⟨hhead, ?_, ?_, ?_, ?_, ?_⟩, ?_⟩
  · intro ms h
    exact exists_collect_superset h
  · intro ms h
    exact ⟨sublist_of_collect h, nodup_of_collect h⟩
  · intro e
    exact query_eq_error_iff
  · rintro before a n after rfl ha
    exact query_append_of_found ha before after
  · intro greedy
    exact exists_collect_eq_error_iff
  · intro recording records greedy hs c h
    have hall : (c.queryAll ⟨d, root⟩ alternatives greedy).eval.result =
        ((Engine.mk t .standard).queryAll d root alternatives greedy).result.map
          fun ms => ms.map fun m => Handle.sibling ⟨d, root⟩ m.node := Eval.result_map _ _
    have hquery : (c.query ⟨d, root⟩ alternatives).eval.result =
        ((Engine.mk t .standard).query d root alternatives).result.map
          fun m => m.map fun m => Handle.sibling ⟨d, root⟩ m.node := Eval.result_map _ _
    rw [hall, Eval.map_eq_ok_iff] at h
    obtain ⟨ms, hms, rfl⟩ := h
    rw [hquery, hhead greedy ms hms, List.head?_map]
    rfl

/-- Alternatives of which the first finds nothing, two are the same, and one finds nodes that
another one has found before; behind them stands the empty text, which is no selector. -/
theorem query_agrees_queryAll_repeated :
    let d : Document := ⟨#[⟨0, .element ['r'] []⟩, ⟨1, .element ['a'] []⟩,
      ⟨1, .element ['b'] []⟩], by decide⟩
    let q : Engine := ⟨.default, .standard⟩
    let inner : Text := ['*', '>', '*']
    let alternatives : Alternatives := [['*', '>', '*', '>', '*'], inner, ['*'], inner]
    (q.queryAll d 0 alternatives true).result = .ok [⟨2, inner⟩, ⟨3, inner⟩, ⟨1, ['*']⟩] ∧
      (q.queryAll d 0 alternatives false).result = .ok [⟨2, inner⟩, ⟨1, ['*']⟩] ∧
      (q.query d 0 alternatives).result = .ok (some ⟨2, inner⟩) ∧
      q.query d 0 (alternatives ++ [[]]) = q.query d 0 [['*', '>', '*', '>', '*'], inner] ∧
      ∃ e, (q.queryAll d 0 (alternatives ++ [[]]) true).result = .error e := by
  intro d q inner alternatives
  have hall : (q.queryAll d 0 alternatives true).result =
      .ok [⟨2, inner⟩, ⟨3, inner⟩, ⟨1, ['*']⟩] := by
    unfold alternatives inner q
    cbv
  have heach : (q.queryAll d 0 alternatives false).result = .ok [⟨2, inner⟩, ⟨1, ['*']⟩] := by
    unfold alternatives inner q
    cbv
  have hinner : (q.findFirst d 0 inner).result = .ok (some 2) := by
    unfold inner q
    cbv
  have hbad : (q.findFirst d 0 []).result = .error (.invalidSelector ⟨[], .empty⟩) := by
    unfold q
    cbv
  have hagree := (query_agrees_queryAll .default d 0 alternatives).1
  have hagree' := (query_agrees_queryAll .default d 0 (alternatives ++ [[]])).1
  refine ⟨hall, heach, hagree.query_eq_head? true _ hall, ?_, ?_⟩
  · exact hagree'.query_stops [['*', '>', '*', '>', '*']] inner 2 [['*'], inner, []] rfl hinner
  · exact (hagree'.queryAll_fails_iff true).2 ⟨[], by simp, _, hbad⟩

end TreeQuery.Engine
