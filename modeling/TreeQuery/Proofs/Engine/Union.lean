import Mathlib.Data.List.Nodup
import Mathlib.Data.List.Perm.Basic
import TreeQuery.Engine
import TreeQuery.Proofs.Evaluation.Search

set_option relaxedAutoImplicit false
set_option autoImplicit false

/-!
# The union of what alternatives find

The nodes that alternatives find are put together in the order of the alternatives, each node
once, with the first alternative that found it. The result is told here without the list of nodes
seen so far: which nodes there are, which alternative each of them has, and which of two matches
comes first. These determine it, also if alternatives are equal, find nothing, or find the same
nodes.

## Main definitions

* `TreeQuery.Alternatives.LeadsTo` — going through alternatives until one of them ends it.
* `TreeQuery.Engine.found` — what a single alternative finds.
* `TreeQuery.Alternatives.IsUnion` — the union of what alternatives find.
* `TreeQuery.Alternatives.FailsFirst` — the error of the first alternative that fails.

## Main results

* `TreeQuery.Alternatives.IsUnion.unique` — there is only one union.
* `TreeQuery.Engine.collect_eq_error_iff`, `TreeQuery.Engine.exists_collect` — collecting the
  contributions of alternatives, whatever has been seen before.
* `TreeQuery.Engine.queryAll_isUnion` — the query for all alternatives computes their union.
-/

namespace TreeQuery

namespace Alternatives

/-! ## Going through alternatives -/

/-- Going through the alternatives in order leads to one that satisfies `ends`, and all that stand
before it satisfy `passes`. -/
def LeadsTo (alternatives : Alternatives) (passes ends : Text → Prop) : Prop :=
  ∃ before a after, alternatives = before ++ a :: after ∧ (∀ b ∈ before, passes b) ∧ ends a

section LeadsTo

variable {passes ends : Text → Prop}

lemma leadsTo_nil : ¬ LeadsTo [] passes ends := by
  rintro ⟨before, a, after, h, -⟩
  simp at h

/-- The first alternative either ends the way or lets it pass to the others. -/
lemma leadsTo_cons {s : Text} {alternatives : Alternatives} :
    LeadsTo (s :: alternatives) passes ends ↔
      ends s ∨ passes s ∧ LeadsTo alternatives passes ends := by
  constructor
  · rintro ⟨before, a, after, h, hbefore, ha⟩
    cases before with
    | nil =>
      obtain ⟨rfl, -⟩ := List.cons.inj h
      exact .inl ha
    | cons b before =>
      obtain ⟨rfl, halternatives⟩ := List.cons.inj h
      obtain ⟨hb, hbefore⟩ := List.forall_mem_cons.1 hbefore
      exact .inr ⟨hb, before, a, after, halternatives, hbefore, ha⟩
  · rintro (hs | ⟨hs, before, a, after, rfl, hbefore, ha⟩)
    · exact ⟨[], s, alternatives, rfl, by simp, hs⟩
    · exact ⟨s :: before, a, after, rfl, List.forall_mem_cons.2 ⟨hs, hbefore⟩, ha⟩

end LeadsTo

/-! ## Unions -/

/-- The place of the first alternative that finds the node. -/
def rank (alternatives : Alternatives) (finds : Text → List NodeId) (n : NodeId) : Nat :=
  alternatives.findIdx fun a => n ∈ finds a

/-- The order of matches: by the place of the first alternative that finds the node, and then by
the place of the node among all that this alternative finds. -/
def Precedes (alternatives : Alternatives) (finds : Text → List NodeId) (m m' : Match) : Prop :=
  alternatives.rank finds m.node < alternatives.rank finds m'.node ∨
    alternatives.rank finds m.node = alternatives.rank finds m'.node ∧
      (finds m.alternative).idxOf m.node < (finds m'.alternative).idxOf m'.node

/-- The matches are the union of what alternatives find, without the nodes in `seen`. -/
structure IsUnionBeyond (seen : List NodeId) (alternatives : Alternatives)
    (finds : Text → List NodeId) (ms : List Match) : Prop where
  /-- No node is matched twice. -/
  nodup : (ms.map (·.node)).Nodup
  /-- The nodes are those that some alternative finds. -/
  mem_iff : ∀ n, n ∈ ms.map (·.node) ↔ n ∉ seen ∧ ∃ a ∈ alternatives, n ∈ finds a
  /-- A match has the first alternative that finds its node. -/
  attributed : ∀ m ∈ ms, alternatives.find? (fun a => m.node ∈ finds a) = some m.alternative
  /-- The matches are in order. -/
  ordered : ms.Pairwise (alternatives.Precedes finds)

/-- **The matches are the union of what alternatives find**: no node twice, exactly the nodes that
some alternative finds, each with the first alternative that finds it, ordered by these
alternatives and then as the alternative finds them. -/
def IsUnion (alternatives : Alternatives) (finds : Text → List NodeId) (ms : List Match) : Prop :=
  IsUnionBeyond [] alternatives finds ms

/-- The error is that of the first alternative that fails. -/
def FailsFirst (alternatives : Alternatives) (run : Text → Except QueryError (List NodeId))
    (e : QueryError) : Prop :=
  ∃ before a after, alternatives = before ++ a :: after ∧
    (∀ b ∈ before, ∃ ns, run b = .ok ns) ∧ run a = .error e

variable {alternatives : Alternatives} {finds : Text → List NodeId}

lemma rank_cons_of_mem {s : Text} {n : NodeId} (h : n ∈ finds s) :
    rank (s :: alternatives) finds n = 0 := by
  simp [rank, List.findIdx_cons, h]

lemma rank_cons_of_not_mem {s : Text} {n : NodeId} (h : n ∉ finds s) :
    rank (s :: alternatives) finds n = rank alternatives finds n + 1 := by
  simp [rank, List.findIdx_cons, h]

/-- One more alternative in front does not change the order of matches that it does not find. -/
lemma Precedes.cons {s : Text} {m m' : Match} (h : alternatives.Precedes finds m m')
    (hm : m.node ∉ finds s) (hm' : m'.node ∉ finds s) :
    Precedes (s :: alternatives) finds m m' := by
  have hrank : rank (s :: alternatives) finds m.node = rank alternatives finds m.node + 1 :=
    rank_cons_of_not_mem hm
  have hrank' : rank (s :: alternatives) finds m'.node = rank alternatives finds m'.node + 1 :=
    rank_cons_of_not_mem hm'
  unfold Precedes at h ⊢
  omega

/-- A match of the first alternative precedes all matches that it does not find. -/
lemma precedes_of_mem_of_not_mem {s : Text} {m m' : Match} (hm : m.node ∈ finds s)
    (hm' : m'.node ∉ finds s) : Precedes (s :: alternatives) finds m m' := by
  left
  rw [rank_cons_of_mem hm, rank_cons_of_not_mem hm']
  exact Nat.succ_pos _

/-- No two matches precede each other. -/
lemma Precedes.asymm {m m' : Match} (h : alternatives.Precedes finds m m') :
    ¬ alternatives.Precedes finds m' m := by
  unfold Precedes at *
  omega

/-- **There is only one union**: its nodes are settled, then their alternatives, and then the
order of the matches. -/
theorem IsUnion.unique {ms ms' : List Match} (h : IsUnion alternatives finds ms)
    (h' : IsUnion alternatives finds ms') : ms = ms' := by
  have hsub {ms ms' : List Match} (h : IsUnion alternatives finds ms)
      (h' : IsUnion alternatives finds ms') {m : Match} (hm : m ∈ ms) : m ∈ ms' := by
    have hnode : m.node ∈ ms'.map (·.node) :=
      (h'.mem_iff m.node).2 ((h.mem_iff m.node).1 (List.mem_map_of_mem hm))
    obtain ⟨m', hm', hn⟩ := List.mem_map.1 hnode
    have ha := h'.attributed m' hm'
    rw [hn, h.attributed m hm, Option.some.injEq] at ha
    have heq : m = m' := by
      cases m
      cases m'
      simp_all
    exact heq ▸ hm'
  have hperm : ms.Perm ms' :=
    (List.perm_ext_iff_of_nodup h.nodup.of_map h'.nodup.of_map).2
      fun m => ⟨hsub h h', hsub h' h⟩
  refine hperm.eq_of_pairwise ?_ h.ordered h'.ordered
  intro m m' _ _ hm hm'
  exact absurd hm' hm.asymm

/-! ## Failing alternatives -/

/-- To fail first is to be led to an alternative that fails by others that do not. -/
lemma failsFirst_iff {run : Text → Except QueryError (List NodeId)} {e : QueryError} :
    FailsFirst alternatives run e ↔
      alternatives.LeadsTo (fun b => ∃ ns, run b = .ok ns) fun a => run a = .error e :=
  Iff.rfl

lemma failsFirst_nil {run : Text → Except QueryError (List NodeId)} {e : QueryError} :
    ¬ FailsFirst [] run e := leadsTo_nil

lemma failsFirst_cons_of_ok {run : Text → Except QueryError (List NodeId)} {e : QueryError}
    {s : Text} {ns : List NodeId} (hs : run s = .ok ns) :
    FailsFirst (s :: alternatives) run e ↔ FailsFirst alternatives run e := by
  rw [failsFirst_iff, leadsTo_cons, failsFirst_iff]
  simp [hs]

lemma failsFirst_cons_of_error {run : Text → Except QueryError (List NodeId)} {e e' : QueryError}
    {s : Text} (hs : run s = .error e') : FailsFirst (s :: alternatives) run e ↔ e' = e := by
  rw [failsFirst_iff, leadsTo_cons]
  simp [hs]

end Alternatives

namespace Engine

open Alternatives

/-! ## Nodes that have not been seen -/

lemma mem_unseen_iff {seen ns : List NodeId} {n : NodeId} :
    n ∈ unseen seen ns ↔ n ∈ ns ∧ n ∉ seen := by
  induction ns generalizing seen with
  | nil => simp [unseen]
  | cons m ns ih =>
    rw [unseen]
    by_cases hm : m ∈ seen
    · rw [if_pos hm, ih]
      constructor
      · rintro ⟨hn, hseen⟩
        exact ⟨List.mem_cons_of_mem _ hn, hseen⟩
      · rintro ⟨hn, hseen⟩
        rcases List.mem_cons.1 hn with rfl | hn
        · exact absurd hm hseen
        · exact ⟨hn, hseen⟩
    · rw [if_neg hm, List.mem_cons, ih]
      by_cases hnm : n = m
      · subst hnm
        simp [hm]
      · simp [hnm]

/-- The nodes that have not been seen are in the order in which they were given. -/
lemma unseen_sublist (seen ns : List NodeId) : (unseen seen ns).Sublist ns := by
  induction ns generalizing seen with
  | nil => exact List.Sublist.refl []
  | cons m ns ih =>
    rw [unseen]
    by_cases hm : m ∈ seen
    · rw [if_pos hm]
      exact (ih seen).cons m
    · rw [if_neg hm]
      exact (ih (m :: seen)).cons_cons m

lemma nodup_unseen (seen ns : List NodeId) : (unseen seen ns).Nodup := by
  induction ns generalizing seen with
  | nil => exact List.nodup_nil
  | cons m ns ih =>
    rw [unseen]
    by_cases hm : m ∈ seen
    · rw [if_pos hm]
      exact ih seen
    · rw [if_neg hm]
      refine List.nodup_cons.2 ⟨fun h => ?_, ih (m :: seen)⟩
      exact (mem_unseen_iff.1 h).2 List.mem_cons_self

/-- The nodes that have not been seen stay in their order. -/
lemma pairwise_idxOf_unseen (seen ns : List NodeId) :
    (unseen seen ns).Pairwise fun n n' => ns.idxOf n < ns.idxOf n' := by
  -- One more node in front moves all places by one, for nodes other than that node.
  have hcons (seen ns : List NodeId) {m : NodeId} (hm : m ∉ unseen seen ns)
      (h : (unseen seen ns).Pairwise fun n n' => ns.idxOf n < ns.idxOf n') :
      (unseen seen ns).Pairwise fun n n' => (m :: ns).idxOf n < (m :: ns).idxOf n' := by
    refine h.imp_of_mem fun {n n'} hn hn' hlt => ?_
    have hne : m ≠ n := fun heq => hm (heq ▸ hn)
    have hne' : m ≠ n' := fun heq => hm (heq ▸ hn')
    rw [List.idxOf_cons_ne ns hne, List.idxOf_cons_ne ns hne']
    exact Nat.succ_lt_succ hlt
  induction ns generalizing seen with
  | nil => exact List.Pairwise.nil
  | cons m ns ih =>
    rw [unseen]
    by_cases hm : m ∈ seen
    · rw [if_pos hm]
      exact hcons seen ns (fun h => (mem_unseen_iff.1 h).2 hm) (ih seen)
    · have hfresh : m ∉ unseen (m :: seen) ns :=
        fun h => (mem_unseen_iff.1 h).2 List.mem_cons_self
      rw [if_neg hm]
      refine List.pairwise_cons.2 ⟨fun n hn => ?_, hcons (m :: seen) ns hfresh (ih (m :: seen))⟩
      have hne : m ≠ n := fun heq => hfresh (heq ▸ hn)
      rw [List.idxOf_cons_self, List.idxOf_cons_ne ns hne]
      exact Nat.succ_pos _

/-! ## One more alternative -/

/-- What the first alternative contributes is in order. -/
lemma pairwise_precedes_unseen {alternatives : Alternatives} {finds : Text → List NodeId}
    (seen : List NodeId) (s : Text) :
    ((unseen seen (finds s)).map (Match.mk · s)).Pairwise
      (Precedes (s :: alternatives) finds) := by
  refine List.pairwise_map.2 ((pairwise_idxOf_unseen seen (finds s)).imp_of_mem ?_)
  intro n n' hn hn' hlt
  have hs : rank (s :: alternatives) finds n = 0 := rank_cons_of_mem (mem_unseen_iff.1 hn).1
  have hs' : rank (s :: alternatives) finds n' = 0 := rank_cons_of_mem (mem_unseen_iff.1 hn').1
  exact .inr ⟨hs.trans hs'.symm, hlt⟩

/-- One more alternative in front of others: what it finds and has not been seen comes first, and
the others go on from there. -/
lemma isUnionBeyond_cons {seen : List NodeId} {s : Text} {alternatives : Alternatives}
    {finds : Text → List NodeId} {ms : List Match}
    (h : IsUnionBeyond (unseen seen (finds s) ++ seen) alternatives finds ms) :
    IsUnionBeyond seen (s :: alternatives) finds
      ((unseen seen (finds s)).map (Match.mk · s) ++ ms) := by
  have hnodes : ((unseen seen (finds s)).map (Match.mk · s) ++ ms).map (·.node) =
      unseen seen (finds s) ++ ms.map (·.node) := by
    simp [Function.comp_def]
  -- The nodes of the other alternatives are not found by this one.
  have hnot (n : NodeId) (hn : n ∈ ms.map (·.node)) : n ∉ seen ∧ n ∉ finds s := by
    have hseen := ((h.mem_iff n).1 hn).1
    rw [List.mem_append, not_or] at hseen
    exact ⟨hseen.2, fun hs => hseen.1 (mem_unseen_iff.2 ⟨hs, hseen.2⟩)⟩
  refine ⟨?nodup, ?mem_iff, ?attributed, ?ordered⟩
  case nodup =>
    rw [hnodes]
    refine List.nodup_append'.2 ⟨nodup_unseen _ _, h.nodup, fun n hfresh hn => ?_⟩
    exact (hnot n hn).2 (mem_unseen_iff.1 hfresh).1
  case mem_iff =>
    intro n
    rw [hnodes, List.mem_append, mem_unseen_iff, h.mem_iff, List.mem_append, mem_unseen_iff]
    simp only [List.exists_mem_cons_iff]
    by_cases hseen : n ∈ seen
    · simp [hseen]
    · by_cases hs : n ∈ finds s
      · simp [hseen, hs]
      · simp [hseen, hs]
  case attributed =>
    intro m hm
    rcases List.mem_append.1 hm with hm | hm
    · obtain ⟨n, hn, rfl⟩ := List.mem_map.1 hm
      have hs := (mem_unseen_iff.1 hn).1
      simp [hs]
    · have hs := (hnot m.node (List.mem_map_of_mem hm)).2
      rw [List.find?_cons_of_neg (by simpa using hs)]
      exact h.attributed m hm
  case ordered =>
    refine List.pairwise_append.2 ⟨?_, ?_, ?_⟩
    · exact pairwise_precedes_unseen seen s
    · refine h.ordered.imp_of_mem fun {m m'} hm hm' hprecedes => ?_
      have hm := (hnot m.node (List.mem_map_of_mem hm)).2
      have hm' := (hnot m'.node (List.mem_map_of_mem hm')).2
      exact hprecedes.cons hm hm'
    · intro m hm m' hm'
      obtain ⟨n, hn, rfl⟩ := List.mem_map.1 hm
      have hm' := (hnot m'.node (List.mem_map_of_mem hm')).2
      exact precedes_of_mem_of_not_mem (mem_unseen_iff.1 hn).1 hm'

/-! ## Collecting -/

/-- What a single alternative finds: all nodes, or at most the first one. -/
def found (q : Engine) (d : Document) (root : NodeId) (greedy : Bool) (s : Text) :
    Except QueryError (List NodeId) :=
  if greedy then (q.findAll d root s).result
  else (q.findFirst d root s).result.map Option.toList

section Collecting

variable {q : Engine} {d : Document} {root : NodeId} {greedy : Bool}

lemma result_contribution (s : Text) :
    (q.contribution d root greedy s).result = q.found d root greedy s := by
  unfold contribution found
  cases greedy with
  | true => rfl
  | false =>
    rw [if_neg Bool.false_ne_true, if_neg Bool.false_ne_true]
    exact (congrArg Eval.result (map_eq_pure_bind _ _).symm).trans (Eval.result_map _ _)

/-- A step of collecting: an alternative that fails ends it. -/
lemma result_collect_of_error {s : Text} {e : QueryError} (h : q.found d root greedy s = .error e)
    (seen : List NodeId) (alternatives : Alternatives) :
    (q.collect d root greedy seen (s :: alternatives)).result = .error e := by
  rw [collect, Eval.bind_of_error ((result_contribution s).trans h)]

/-- A step of collecting: what an alternative finds and has not been seen goes in front of what
the others contribute. -/
lemma result_collect_of_ok {s : Text} {ns : List NodeId} (h : q.found d root greedy s = .ok ns)
    (seen : List NodeId) (alternatives : Alternatives) :
    (q.collect d root greedy seen (s :: alternatives)).result =
      (q.collect d root greedy (unseen seen ns ++ seen) alternatives).result.map
        ((unseen seen ns).map (Match.mk · s) ++ ·) := by
  rw [collect, Eval.bind_of_ok ((result_contribution s).trans h)]
  exact (congrArg Eval.result (map_eq_pure_bind _ _).symm).trans (Eval.result_map _ _)

/-- A step of collecting that does not fail: neither does the alternative, and its fresh nodes stand
in front of what the others contribute. -/
lemma exists_of_collect_cons {s : Text} {alternatives : Alternatives} {seen : List NodeId}
    {ms : List Match} (h : (q.collect d root greedy seen (s :: alternatives)).result = .ok ms) :
    ∃ ns rest, q.found d root greedy s = .ok ns ∧
      (q.collect d root greedy (unseen seen ns ++ seen) alternatives).result = .ok rest ∧
      ms = (unseen seen ns).map (Match.mk · s) ++ rest := by
  cases hs : q.found d root greedy s with
  | error e =>
    rw [result_collect_of_error hs] at h
    simp at h
  | ok ns =>
    rw [result_collect_of_ok hs, Eval.map_eq_ok_iff] at h
    obtain ⟨rest, hrest, rfl⟩ := h
    exact ⟨ns, rest, rfl, hrest, rfl⟩

/-- **Collecting fails** with the error of the first alternative that fails. -/
theorem collect_eq_error_iff {alternatives : Alternatives} {seen : List NodeId} {e : QueryError} :
    (q.collect d root greedy seen alternatives).result = .error e ↔
      alternatives.FailsFirst (q.found d root greedy) e := by
  induction alternatives generalizing seen with
  | nil =>
    refine iff_of_false ?_ failsFirst_nil
    rw [collect, Eval.pure_eq]
    simp [Eval.ok]
  | cons s alternatives ih =>
    cases hs : q.found d root greedy s with
    | error e' =>
      rw [result_collect_of_error hs, failsFirst_cons_of_error hs, Except.error.injEq]
    | ok ns =>
      rw [result_collect_of_ok hs, failsFirst_cons_of_ok hs, Eval.map_eq_error_iff, ih]

/-- **Collecting gives the union** of what the alternatives find, without what has been seen
before, if none of them fails. -/
theorem exists_collect {finds : Text → List NodeId} {alternatives : Alternatives}
    (h : ∀ a ∈ alternatives, q.found d root greedy a = .ok (finds a)) (seen : List NodeId) :
    ∃ ms, (q.collect d root greedy seen alternatives).result = .ok ms ∧
      IsUnionBeyond seen alternatives finds ms := by
  induction alternatives generalizing seen with
  | nil => exact ⟨[], rfl, List.nodup_nil, by simp, by simp, List.Pairwise.nil⟩
  | cons s alternatives ih =>
    obtain ⟨hs, halternatives⟩ := List.forall_mem_cons.1 h
    obtain ⟨ms, hms, hunion⟩ := ih halternatives (unseen seen (finds s) ++ seen)
    refine ⟨_, ?_, isUnionBeyond_cons hunion⟩
    rw [result_collect_of_ok hs, hms]
    rfl

/-- If collecting does not fail, no alternative does. -/
lemma forall_found_of_collect {alternatives : Alternatives} {seen : List NodeId} {ms : List Match}
    (h : (q.collect d root greedy seen alternatives).result = .ok ms) :
    ∀ a ∈ alternatives, ∃ ns, q.found d root greedy a = .ok ns := by
  induction alternatives generalizing seen ms with
  | nil => simp
  | cons s alternatives ih =>
    obtain ⟨ns, rest, hs, hrest, -⟩ := exists_of_collect_cons h
    exact List.forall_mem_cons.2 ⟨⟨ns, hs⟩, ih hrest⟩

/-- If collecting does not fail, its answer is the union of what the alternatives find, without
what has been seen before. -/
lemma isUnionBeyond_of_collect {alternatives : Alternatives} {seen : List NodeId}
    {ms : List Match} (h : (q.collect d root greedy seen alternatives).result = .ok ms) :
    IsUnionBeyond seen alternatives (fun a => (q.found d root greedy a).toOption.getD []) ms := by
  have hfound : ∀ a ∈ alternatives,
      q.found d root greedy a = .ok ((q.found d root greedy a).toOption.getD []) := by
    intro a ha
    obtain ⟨ns, hns⟩ := forall_found_of_collect h a ha
    rw [hns]
    rfl
  obtain ⟨ms', hms', hunion⟩ := exists_collect hfound seen
  rw [h, Except.ok.injEq] at hms'
  exact hms' ▸ hunion

end Collecting

/-- **The query for all alternatives computes their union.** It fails exactly if an alternative
does, with the error of the first one that fails. It gives matches exactly if no alternative
fails, and then they are the union of what the alternatives find: all nodes if `greedy` is true,
else at most the first one.

**Proof sketch.** Collecting is an induction on the alternatives, for any nodes seen before. An
alternative contributes what it finds and has not been seen, in its order; its nodes come first
and the alternatives behind it find only others (`isUnionBeyond_cons`). That the union is the
answer, and not only that the answer is a union, is because there is only one. -/
theorem queryAll_isUnion (t : Template) (d : Document) (root : NodeId)
    (alternatives : Alternatives) (greedy : Bool) :
    let q : Engine := ⟨t, .standard⟩
    let finds (a : Text) : List NodeId := (q.found d root greedy a).toOption.getD []
    (∀ e, (q.queryAll d root alternatives greedy).result = .error e ↔
        alternatives.FailsFirst (q.found d root greedy) e) ∧
      ∀ ms, (q.queryAll d root alternatives greedy).result = .ok ms ↔
        (∀ a ∈ alternatives, ∃ ns, q.found d root greedy a = .ok ns) ∧
          alternatives.IsUnion finds ms := by
  intro q finds
  have hunion (h : ∀ a ∈ alternatives, ∃ ns, q.found d root greedy a = .ok ns) :
      ∃ ms, (q.queryAll d root alternatives greedy).result = .ok ms ∧
        alternatives.IsUnion finds ms := by
    refine exists_collect (fun a ha => ?_) []
    obtain ⟨ns, hns⟩ := h a ha
    simp [finds, hns, Except.toOption]
  refine ⟨fun e => collect_eq_error_iff, fun ms => ⟨fun h => ?_, ?_⟩⟩
  · have hall := forall_found_of_collect h
    obtain ⟨ms', hms', hms'Union⟩ := hunion hall
    rw [h, Except.ok.injEq] at hms'
    exact ⟨hall, hms' ▸ hms'Union⟩
  · rintro ⟨hall, hms⟩
    obtain ⟨ms', hms', hms'Union⟩ := hunion hall
    rw [hms', hms'Union.unique hms]

end Engine

end TreeQuery
