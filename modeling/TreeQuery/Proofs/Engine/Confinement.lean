import TreeQuery.Proofs.Document.Ancestry
import TreeQuery.Proofs.Engine.FirstAlternative
import TreeQuery.Proofs.Evaluation.WritesOnly
import TreeQuery.Proofs.Template.Gate

set_option relaxedAutoImplicit false
set_option autoImplicit false

/-!
# Queries stay below their root

Matching a native selector looks at the whole tree, for combinators reach above the root of a query,
and rules start further queries at every candidate. Nevertheless a query with the standard registry
finds only the root and what lies below it, and writes properties nowhere else: of the built-in
pseudo-selectors only the one that applies a rule writes, it writes to the candidate and where the
query of the rule does, and that query has the candidate as its root.

## Main definitions

* `TreeQuery.Engine.MeansRoot` — the selectors that mean the root itself.
* `TreeQuery.Eval.StaysWithin` — an evaluation finds and writes nothing outside a subtree.

## Main results

* `TreeQuery.Engine.writesOnly_retains_of_mute` — without rules a candidate is tested silently.
* `TreeQuery.Engine.writesOnly_findFirst`, `TreeQuery.Engine.writesOnly_findAll`,
  `TreeQuery.Engine.writesOnly_settle` — where queries and rules write.
* `TreeQuery.Engine.findAll_placed` — which nodes a selector finds.
* `TreeQuery.Engine.queries_stayWithin` — queries stay below their root.
-/

namespace TreeQuery

/-! ## Candidates -/

namespace Document

variable {d : Document} {root : NodeId}

/-- What a native query finds lies properly below its root. -/
lemma above_of_selectAll {s : Text} {ns : List NodeId} (h : d.selectAll root s = .ok ns) :
    ∀ n ∈ ns, d.Above root n := by
  obtain ⟨list, rfl⟩ := exists_of_selectAll h
  intro n hn
  exact mem_descendants_iff.1 (List.mem_filter.1 hn).1

/-- If nothing is left of a selector besides its occurrences, the root is the only candidate. -/
lemma eq_root_of_targets {ns : List NodeId} (h : d.targets root [] = .ok ns) : ns = [root] :=
  (Except.ok.inj h).symm

/-- Otherwise the candidates are what a native query gives. -/
lemma selectAll_of_targets {base : Text} (hbase : base ≠ []) {ns : List NodeId}
    (h : d.targets root base = .ok ns) : d.selectAll root base = .ok ns := by
  rwa [targets, if_neg hbase] at h

/-- A candidate is the root or lies below it. -/
lemma within_of_targets {base : Text} {ns : List NodeId} (h : d.targets root base = .ok ns) :
    ∀ n ∈ ns, d.Within root n := by
  intro n hn
  by_cases hbase : base = []
  · subst hbase
    rw [eq_root_of_targets h, List.mem_singleton] at hn
    rw [hn]
    exact d.within_self root
  · exact (above_of_selectAll (selectAll_of_targets hbase h) n hn).within

end Document

namespace Engine

/-! ## Where pseudo-selectors write -/

section Calls

variable {allowed : NodeId → Prop} {q : Engine} {d : Document} {n : NodeId} {limit : Nat}

lemma writesOnly_ofText (test : (text argument : Text) → Bool) (e : Element limit)
    (argument : Text) (short : argument.length < limit) :
    (Pseudo.ofText test e argument short).WritesOnly allowed :=
  Eval.writesOnly_ok (test e.text argument)

/-- Applying the rule in an argument writes where the element says that rules write. -/
lemma writesOnly_smuggleIf {e : Element limit}
    (h : ∀ r short, (e.settle r short).WritesOnly allowed) (argument : Text)
    (short : argument.length < limit) : (Pseudo.smuggleIf e argument short).WritesOnly allowed := by
  cases hrule : Rule.ofJson argument with
  | error problem =>
    rw [Pseudo.smuggleIf_of_error e short hrule]
    exact Eval.writesOnly_fail _
  | ok r =>
    rw [Pseudo.smuggleIf_of_ok e short hrule]
    exact (h r _).bind fun _ _ => Eval.writesOnly_ok false

/-- A built-in pseudo-selector writes nothing, unless it is the one that applies a rule. -/
lemma writesOnly_builtin (q : Engine) (d : Document) (n : NodeId) (limit : Nat) :
    ∀ entry ∈ Pseudo.builtins,
      (entry.1 = "smuggleIf".toList →
        ∀ r short, ((q.element d n limit).settle r short).WritesOnly allowed) →
      ∀ (argument : Text) (short : argument.length < limit),
        (entry.2 (q.element d n limit) argument short).WritesOnly allowed := by
  refine Pseudo.forall_mem_builtins
    (P := fun name p => (name = "smuggleIf".toList → _) →
      ∀ argument short, (p (q.element d n limit) argument short).WritesOnly allowed)
    ?ofText ?self ?closest ?smuggleIf
  case ofText =>
    intro _ test _ argument short
    exact writesOnly_ofText test _ argument short
  case self =>
    intro _ argument _
    exact Eval.writesOnly_ofNative (d.satisfies n argument)
  case closest =>
    intro _ argument _
    exact (Eval.writesOnly_ofNative (d.closest n argument)).bind fun found _ =>
      Eval.writesOnly_ok found.isSome
  case smuggleIf =>
    intro h argument short
    exact writesOnly_smuggleIf (h rfl) argument short

/-- Calls write together where they write one by one. -/
lemma writesOnly_holdAll {e : Element limit} {cs : List (Call limit)}
    (h : ∀ c ∈ cs, (c.pseudo e c.argument c.short).WritesOnly allowed) :
    (holdAll e cs).WritesOnly allowed := by
  induction cs with
  | nil => exact Eval.writesOnly_ok true
  | cons c cs ih =>
    obtain ⟨hc, hcs⟩ := List.forall_mem_cons.1 h
    rw [holdAll_cons]
    refine hc.bind fun b _ => ?_
    cases b with
    | true => exact ih hcs
    | false => exact Eval.writesOnly_ok false

/-- Testing a candidate writes where rules do, if the selector holds any. -/
lemma writesOnly_retains {t : Template} {s : Text}
    (h : ∀ o ∈ t.occurrences s, o.name = "smuggleIf".toList → ∀ r short,
      (((Engine.mk t .standard).element d n s.length).settle r short).WritesOnly allowed) :
    ((Engine.mk t .standard).retains d s n).WritesOnly allowed := by
  refine (writesOnly_holdAll fun c hc => ?_).excuse _
  obtain ⟨o, ho, -, hbuiltin⟩ := exists_occurrence_of_mem_calls hc
  exact writesOnly_builtin _ d n s.length _ hbuiltin (h o ho) c.argument c.short

end Calls

/-! ## Where queries write -/

section Queries

variable {allowed : NodeId → Prop} {q : Engine} {d : Document} {root : NodeId} {s : Text}

/-- A search writes where its third step does. -/
lemma writesOnly_search {α : Type} {look : List NodeId → Eval α}
    (h : ∀ ns, d.targets root (q.template.base s) = .ok ns → (look ns).WritesOnly allowed) :
    (q.search d root s look).WritesOnly allowed := by
  refine (Eval.writesOnly_notices (q.unknownNotices s)).bind fun _ _ => ?_
  cases htargets : d.targets root (q.template.base s) with
  | error e => exact Eval.writesOnly_fail _
  | ok ns => exact h ns htargets

/-- The query for the first node writes where testing candidates does. -/
lemma writesOnly_findFirst_of_retains
    (h : ∀ n, d.Within root n → (q.retains d s n).WritesOnly allowed) :
    (q.findFirst d root s).WritesOnly allowed := by
  by_cases hp : q.hasPseudo s = true
  · rw [findFirst_eq_search hp]
    refine writesOnly_search fun ns hns => Eval.WritesOnly.findFirst fun n hn => ?_
    exact h n (Document.within_of_targets hns n hn)
  · rw [findFirst_of_native hp]
    exact Eval.writesOnly_ofNative _

/-- The query for all nodes writes where testing candidates does. -/
lemma writesOnly_findAll_of_retains
    (h : ∀ n, d.Within root n → (q.retains d s n).WritesOnly allowed) :
    (q.findAll d root s).WritesOnly allowed := by
  by_cases hp : q.hasPseudo s = true
  · rw [findAll_eq_search hp]
    refine writesOnly_search fun ns hns => Eval.WritesOnly.keep fun n hn => ?_
    exact h n (Document.within_of_targets hns n hn)
  · rw [findAll_of_native hp]
    exact Eval.writesOnly_ofNative _

/-- Applying a rule writes to its node and where the query of the rule does. -/
lemma writesOnly_settle_of_findFirst {n : NodeId} {r : Rule} (hn : allowed n)
    (h : (q.findFirst d n r.selector).WritesOnly allowed) :
    (q.settle d n r).WritesOnly allowed := by
  refine h.bind fun found _ => ?_
  unfold Rule.settle
  cases r.branch found.isSome with
  | none => exact Eval.writesOnly_ok found.isSome
  | some a =>
    refine (Eval.writesOnly_assign hn a.property a.value).bind fun _ _ => ?_
    exact Eval.writesOnly_ok found.isSome

end Queries

section Standard

variable {t : Template} {d : Document} {root : NodeId} {s : Text}

/-- **Without rules testing a candidate writes nothing.** -/
theorem writesOnly_retains_of_mute (h : ∀ o ∈ t.occurrences s, o.name ≠ "smuggleIf".toList)
    (d : Document) (n : NodeId) :
    ((Engine.mk t .standard).retains d s n).WritesOnly fun _ => False :=
  writesOnly_retains fun o ho hname => absurd hname (h o ho)

/-- Testing a candidate writes to the candidate and below it, if the queries for shorter selectors
write to their root and below it. -/
lemma writesOnly_retains_within
    (h : ∀ (n : NodeId) (u : Text), u.length < s.length →
      ((Engine.mk t .standard).findFirst d n u).WritesOnly (d.Within n)) (n : NodeId) :
    ((Engine.mk t .standard).retains d s n).WritesOnly (d.Within n) := by
  refine writesOnly_retains fun _ _ _ r short => ?_
  exact writesOnly_settle_of_findFirst (d.within_self n) (h n r.selector short)

/-- **The query for the first node** writes to the root and below it.

**Proof sketch.** By induction on the length of the selector. A rule at a candidate has a shorter
selector, so that its query writes to the candidate and below it; and there is below the root. -/
theorem writesOnly_findFirst (t : Template) (d : Document) (root : NodeId) (s : Text) :
    ((Engine.mk t .standard).findFirst d root s).WritesOnly (d.Within root) := by
  induction hlength : s.length using Nat.strong_induction_on generalizing root s with
  | _ k ih =>
    refine writesOnly_findFirst_of_retains fun n hn => ?_
    have hbelow : ((Engine.mk t .standard).retains d s n).WritesOnly (d.Within n) :=
      writesOnly_retains_within (fun m u hu => ih u.length (hlength ▸ hu) m u rfl) n
    exact hbelow.mono fun m hm => hn.trans hm

/-- **The query for all nodes** writes to the root and below it. -/
theorem writesOnly_findAll (t : Template) (d : Document) (root : NodeId) (s : Text) :
    ((Engine.mk t .standard).findAll d root s).WritesOnly (d.Within root) := by
  refine writesOnly_findAll_of_retains fun n hn => ?_
  have hbelow : ((Engine.mk t .standard).retains d s n).WritesOnly (d.Within n) :=
    writesOnly_retains_within (fun m u _ => writesOnly_findFirst t d m u) n
  exact hbelow.mono fun m hm => hn.trans hm

/-- **A rule** writes to its node and below it. -/
theorem writesOnly_settle (t : Template) (d : Document) (n : NodeId) (r : Rule) :
    ((Engine.mk t .standard).settle d n r).WritesOnly (d.Within n) :=
  writesOnly_settle_of_findFirst (d.within_self n) (writesOnly_findFirst t d n r.selector)

/-- The query for the first match of alternatives writes to the root and below it. -/
lemma writesOnly_query (t : Template) (d : Document) (root : NodeId)
    (alternatives : Alternatives) :
    ((Engine.mk t .standard).query d root alternatives).WritesOnly (d.Within root) := by
  induction alternatives with
  | nil => exact Eval.writesOnly_ok none
  | cons s alternatives ih =>
    rw [query_cons]
    refine (writesOnly_findFirst t d root s).bind fun found _ => ?_
    cases found with
    | none => exact ih
    | some n => exact Eval.writesOnly_ok _

lemma writesOnly_contribution (t : Template) (d : Document) (root : NodeId) (greedy : Bool)
    (s : Text) :
    ((Engine.mk t .standard).contribution d root greedy s).WritesOnly (d.Within root) := by
  unfold contribution
  cases greedy with
  | true => exact writesOnly_findAll t d root s
  | false =>
    exact (writesOnly_findFirst t d root s).bind fun found _ => Eval.writesOnly_ok found.toList

/-- Collecting writes to the root and below it, whatever nodes have been seen. -/
lemma writesOnly_collect (t : Template) (d : Document) (root : NodeId) (greedy : Bool)
    (seen : List NodeId) (alternatives : Alternatives) :
    ((Engine.mk t .standard).collect d root greedy seen alternatives).WritesOnly
      (d.Within root) := by
  induction alternatives generalizing seen with
  | nil => exact Eval.writesOnly_ok []
  | cons s alternatives ih =>
    refine (writesOnly_contribution t d root greedy s).bind fun ns _ => ?_
    refine (ih (unseen seen ns ++ seen)).bind fun rest _ => ?_
    exact Eval.writesOnly_ok _

end Standard

/-! ## What queries find -/

/-- The selector means the root itself: it holds an occurrence, and nothing but blanks besides its
occurrences. -/
def MeansRoot (q : Engine) (s : Text) : Prop :=
  q.template.occurrences s ≠ [] ∧ q.template.base s = []

/-- Where the nodes are that a selector finds below a root. -/
structure Placed (q : Engine) (d : Document) (root : NodeId) (s : Text) (ns : List NodeId) :
    Prop where
  /-- They are in document order, no node twice. -/
  ordered : ns.Pairwise (· < ·)
  /-- They lie properly below the root, unless the selector means the root. -/
  above : ¬ q.MeansRoot s → ∀ n ∈ ns, d.Above root n
  /-- If the selector means the root, that is the only node that can be found. -/
  root_only : q.MeansRoot s → ns = [] ∨ ns = [root]

section Found

variable {q : Engine} {d : Document} {root : NodeId} {s : Text}

lemma Placed.within {ns : List NodeId} (h : q.Placed d root s ns) :
    ∀ n ∈ ns, d.Within root n := by
  intro n hn
  by_cases hroot : q.MeansRoot s
  · rcases h.root_only hroot with rfl | rfl
    · simp at hn
    · rw [List.mem_singleton.1 hn]
      exact d.within_self root
  · exact (h.above hroot n hn).within

/-- A native query gives nodes that lie properly below its root. -/
lemma placed_of_selectAll (hroot : ¬ q.MeansRoot s) {base : Text} {ms ns : List NodeId}
    (h : d.selectAll root base = .ok ms) (hsub : ns.Sublist ms) : q.Placed d root s ns where
  ordered := (Document.pairwise_lt_of_selectAll h).sublist hsub
  above _ n hn := Document.above_of_selectAll h n (hsub.subset hn)
  root_only hmeans := absurd hmeans hroot

/-- The root alone, or nothing, if the selector means the root. -/
lemma placed_of_root (hroot : q.MeansRoot s) {ns : List NodeId} (hsub : ns.Sublist [root]) :
    q.Placed d root s ns where
  ordered := (List.pairwise_singleton _ root).sublist hsub
  above hnot := absurd hroot hnot
  root_only _ := List.sublist_singleton.1 hsub

/-- **Which nodes a selector finds**, with any registry.

**Proof sketch.** The nodes found are some of the candidates. A selector that passes the gate has an
empty base only if it holds an occurrence, and one that does not pass holds none. -/
theorem findAll_placed {ns : List NodeId} (h : (q.findAll d root s).result = .ok ns) :
    q.Placed d root s ns := by
  by_cases hp : q.hasPseudo s = true
  · rw [findAll_eq_search hp] at h
    obtain ⟨ms, hms, hkeep⟩ := exists_of_search_ok h
    have hsub : ns.Sublist ms := Eval.sublist_of_keep hkeep
    by_cases hbase : q.template.base s = []
    · rw [hbase] at hms
      rw [Document.eq_root_of_targets hms] at hsub
      exact placed_of_root ⟨Template.occurrences_ne_nil_of_gate hp hbase, hbase⟩ hsub
    · have hselect := Document.selectAll_of_targets hbase hms
      exact placed_of_selectAll (fun hroot => hbase hroot.2) hselect hsub
  · rw [findAll_of_native hp] at h
    have hgate : q.template.gate s = false := Bool.eq_false_iff.2 hp
    cases hselect : d.selectAll root s with
    | error e =>
      rw [hselect] at h
      simp [Eval.ofNative, Eval.fail] at h
    | ok ms =>
      rw [hselect] at h
      obtain rfl : ms = ns := Except.ok.inj h
      refine placed_of_selectAll (fun hroot => ?_) hselect (List.Sublist.refl ms)
      exact hroot.1 (Template.occurrences_of_gate hgate)

end Found

section FoundStandard

variable {t : Template} {d : Document} {root : NodeId} {s : Text}

/-- The first node that a selector finds is the root or lies below it. -/
lemma within_of_findFirst {n : NodeId}
    (h : ((Engine.mk t .standard).findFirst d root s).result = .ok (some n)) :
    d.Within root n := by
  rw [findFirst_eq_head?_findAll, Eval.result_map, Eval.map_eq_ok_iff] at h
  obtain ⟨ns, hns, hhead⟩ := h
  exact (findAll_placed hns).within n (List.mem_of_head? hhead)

/-- The node of the first match of alternatives is the root or lies below it. -/
lemma within_of_query {alternatives : Alternatives} {m : Match}
    (h : ((Engine.mk t .standard).query d root alternatives).result = .ok (some m)) :
    d.Within root m.node := by
  induction alternatives with
  | nil => simp [query, Eval.pure_eq, Eval.ok] at h
  | cons s alternatives ih =>
    cases hs : ((Engine.mk t .standard).findFirst d root s).result with
    | error e =>
      rw [result_query_of_error hs] at h
      simp at h
    | ok found =>
      cases found with
      | none =>
        rw [result_query_of_none hs] at h
        exact ih h
      | some n =>
        rw [query_of_some hs] at h
        obtain rfl : ⟨n, s⟩ = m := Option.some.inj (Except.ok.inj h)
        exact within_of_findFirst hs

/-- The nodes of all matches of alternatives are the root or lie below it. -/
lemma within_of_queryAll {alternatives : Alternatives} {greedy : Bool} {ms : List Match}
    (h : ((Engine.mk t .standard).queryAll d root alternatives greedy).result = .ok ms) :
    ∀ n ∈ ms.map (·.node), d.Within root n := by
  intro n hn
  obtain ⟨-, a, -, ha⟩ := ((isUnionBeyond_of_collect h).mem_iff n).1 hn
  obtain ⟨all, hall, hn⟩ := exists_of_mem_found ha
  exact (findAll_placed hall).within n (portion_subset greedy all hn)

end FoundStandard

end Engine

/-! ## Queries stay below their root -/

/-- The evaluation finds only the node `root` and nodes below it, and leaves the properties of all
other nodes alone, whatever they were; `nodes` are the nodes in an answer. -/
structure Eval.StaysWithin {α : Type} (x : Eval α) (d : Document) (root : NodeId)
    (nodes : α → List NodeId) : Prop where
  found : ∀ a, x.result = .ok a → ∀ n ∈ nodes a, d.Within root n
  untouched : ∀ (p : Properties) (n : NodeId), ¬ d.Within root n → ∀ name,
    (p.after x.effects).get? n name = p.get? n name

/-- An evaluation that writes below a root leaves all other properties alone. -/
lemma Eval.WritesOnly.staysWithin {α : Type} {x : Eval α} {d : Document} {root : NodeId}
    {nodes : α → List NodeId} (hx : x.WritesOnly (d.Within root))
    (h : ∀ a, x.result = .ok a → ∀ n ∈ nodes a, d.Within root n) : x.StaysWithin d root nodes :=
  ⟨h, fun p _ hn name => hx.get?_after hn p name⟩

namespace Engine

/-- **Queries stay below their root**, with the standard registry and for every template, document
and root. Whatever the selectors are, and however deep rules are nested in them, no query finds and
no query or rule writes to a node that is neither the root nor below it. The nodes that a selector
finds are in document order and lie properly below the root, unless the selector means the root. A
selector without rules writes to no node at all.

**Proof sketch.** Of the built-in pseudo-selectors only the one that applies rules writes
(`writesOnly_builtin`), and the query of a rule has the candidate as its root and a shorter
selector, so that an induction on the length of the selector shows where queries write
(`writesOnly_findFirst`). What they find are candidates (`findAll_placed`); the queries for
alternatives put together what the alternatives find. -/
theorem queries_stayWithin (t : Template) (d : Document) (root : NodeId) :
    let q : Engine := ⟨t, .standard⟩
    (∀ s, (q.findAll d root s).StaysWithin d root id ∧
        (q.findFirst d root s).StaysWithin d root Option.toList) ∧
      (∀ s ns, (q.findAll d root s).result = .ok ns → q.Placed d root s ns) ∧
      (∀ s, (∀ o ∈ t.occurrences s, o.name ≠ "smuggleIf".toList) → ∀ p : Properties,
        p.after (q.findAll d root s).effects = p ∧
          p.after (q.findFirst d root s).effects = p) ∧
      (∀ alternatives,
        (q.query d root alternatives).StaysWithin d root (fun m => m.toList.map (·.node)) ∧
          ∀ greedy, (q.queryAll d root alternatives greedy).StaysWithin d root
            fun ms => ms.map (·.node)) ∧
      ∀ r, (q.settle d root r).StaysWithin d root fun _ => [] := by
  intro q
  refine ⟨fun s => ⟨?_, ?_⟩, fun s ns => findAll_placed, fun s hmute p => ⟨?_, ?_⟩,
    fun alternatives => ⟨?_, fun greedy => ?_⟩, fun r => ?_⟩
  · refine (writesOnly_findAll t d root s).staysWithin fun ns hns => ?_
    exact (findAll_placed hns).within
  · refine (writesOnly_findFirst t d root s).staysWithin fun found hfound n hn => ?_
    obtain rfl := Option.mem_toList.1 hn
    exact within_of_findFirst hfound
  · refine (writesOnly_findAll_of_retains fun n _ => ?_).after_eq p
    exact writesOnly_retains_of_mute hmute d n
  · refine (writesOnly_findFirst_of_retains fun n _ => ?_).after_eq p
    exact writesOnly_retains_of_mute hmute d n
  · refine (writesOnly_query t d root alternatives).staysWithin fun found hfound n hn => ?_
    obtain ⟨m, hm, rfl⟩ := List.mem_map.1 hn
    obtain rfl := Option.mem_toList.1 hm
    exact within_of_query hfound
  · refine (writesOnly_collect t d root greedy [] alternatives).staysWithin fun ms hms => ?_
    exact within_of_queryAll hms
  · exact (writesOnly_settle t d root r).staysWithin fun _ _ n hn => absurd hn List.not_mem_nil

set_option maxRecDepth 20000 in
/-- An element with another element below it and one beside it, as the root of queries: a selector
that means the root, one that does not, and one with a rule. -/
theorem queries_stayWithin_siblings :
    let d : Document := ⟨#[⟨0, .element ['r'] []⟩, ⟨1, .element ['a'] []⟩,
      ⟨2, .element ['b'] []⟩, ⟨1, .element ['a'] []⟩], by decide⟩
    let q : Engine := ⟨⟨['!'], [], ['~']⟩, .standard⟩
    let itself : Text := "!self(~*~)".toList
    let rule : Text := "*!smuggleIf(~[\"*\",null,[\"p\",0]]~)".toList
    (q.MeansRoot itself ∧ (q.findAll d 2 itself).result = .ok [2] ∧
        ∀ p : Properties, p.after (q.findAll d 2 itself).effects = p) ∧
      (¬ q.MeansRoot ['*'] ∧ (q.findAll d 2 ['*']).result = .ok [3] ∧ d.Above 2 3) ∧
      Properties.after [] (q.findAll d 2 rule).effects = [(3, [(['p'], .int 0)])] ∧
      ¬ d.Within 2 4 ∧ ∀ (p : Properties) name,
        (p.after (q.findAll d 2 rule).effects).get? 4 name = p.get? 4 name := by
  intro d q itself rule
  have hall : (q.findAll d 2 ['*']).result = .ok [3] := by
    unfold q
    cbv
  have hnone : q.template.occurrences ['*'] = [] := by
    unfold q
    cbv
  have hother : ¬ d.Within 2 4 := by
    have hdescendants : d.descendants 2 = [3] := by
      unfold d
      cbv
    rw [Document.within_iff, hdescendants]
    decide
  have hgateRule : q.hasPseudo rule = true := by decide +kernel
  have hrule : Properties.after [] (q.findAll d 2 rule).effects = [(3, [(['p'], .int 0)])] := by
    rw [findAll_eq_search hgateRule]
    unfold rule q
    cbv
  have hoccurrences : q.template.occurrences itself = [⟨"self".toList, ['*']⟩] := by
    unfold itself q
    cbv
  have hbase : q.template.base itself = [] := by
    unfold itself q
    cbv
  have hgate : q.hasPseudo itself = true := by decide +kernel
  have hitself : (q.findAll d 2 itself).result = .ok [2] := by
    rw [findAll_eq_search hgate]
    unfold itself q
    cbv
  obtain ⟨hstays, hplaced, hmute, -⟩ := queries_stayWithin q.template d 2
  have hmeans : ¬ q.MeansRoot ['*'] := fun h => h.1 hnone
  refine ⟨⟨⟨?_, hbase⟩, hitself, fun p => (hmute itself ?_ p).1⟩, ⟨hmeans, hall, ?_⟩, hrule,
    hother, ?_⟩
  · rw [hoccurrences]
    exact List.cons_ne_nil _ _
  · rw [hoccurrences]
    decide
  · exact (hplaced ['*'] [3] hall).above hmeans 3 List.mem_cons_self
  · exact fun p name => (hstays rule).1.untouched p 4 hother name

end Engine

end TreeQuery
