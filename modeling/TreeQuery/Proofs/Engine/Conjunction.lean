import TreeQuery.Proofs.Engine.Dispatch
import TreeQuery.Proofs.Template.Assembly

set_option relaxedAutoImplicit false
set_option autoImplicit false

/-!
# Pseudo-selectors as a conjunction

A candidate is tested with one pseudo-selector after the other, up to the first one that does not
hold or that fails. Which nodes are found in the end tells nothing of this: they are the candidates
that each pseudo-selector keeps by itself. What a built-in pseudo-selector says of a node depends on
the node and on its argument alone, so that neither the order of the occurrences nor how often they
are repeated nor where they stand makes a difference, as long as the same text is left when they are
taken out.

The notices are not the same in every order, since fewer or more pseudo-selectors are asked.

## Main definitions

* `TreeQuery.Engine.answer` — what a pseudo-selector says of a node.
* `TreeQuery.Engine.Admits` — what is looked up does not exclude a node.
* `TreeQuery.Engine.RetainedBy` — an occurrence by itself keeps a node.
* `TreeQuery.Decomposition.Founded` — fragments that leave candidates.

## Main results

* `TreeQuery.Engine.builtin_eq_answer` — the answer is the same in every selector.
* `TreeQuery.Engine.result_findAll_assembled` — what is found for an assembled selector.
* `TreeQuery.Engine.findAll_conjunction` — the same, told by the occurrences one by one.
-/

namespace TreeQuery

open Text Template

/-- The fragments leave a native selector, or nothing but blanks besides at least one item. -/
def Decomposition.Founded {α : Type} (g : Decomposition α) : Prop :=
  (∃ list, Native.SelectorList.parse (trim g.fragments.flatten) = .ok list) ∨
    trim g.fragments.flatten = [] ∧ g.items ≠ []

namespace Engine

variable {q : Engine} {d : Document} {root n : NodeId} {s : Text} {l : Lookup} {o : Occurrence}

/-! ## What pseudo-selectors say of nodes -/

/-- What a pseudo-selector says of a node if nothing but its argument is being evaluated. -/
def answer (q : Engine) (d : Document) (n : NodeId) (p : Pseudo) (argument : Text) : Eval Bool :=
  p (q.element d n (argument.length + 1)) argument (Nat.lt_succ_self _)

lemma smuggleIf_eq_answer (q : Engine) (d : Document) (n : NodeId) {limit : Nat} (argument : Text)
    (short : argument.length < limit) :
    Pseudo.smuggleIf (q.element d n limit) argument short =
      q.answer d n Pseudo.smuggleIf argument := by
  have hself : argument.length < argument.length + 1 := Nat.lt_succ_self _
  let e := q.element d n (argument.length + 1)
  cases h : Rule.ofJson argument with
  | error problem =>
    exact (Pseudo.smuggleIf_of_error _ short h).trans (Pseudo.smuggleIf_of_error e hself h).symm
  | ok r => exact (Pseudo.smuggleIf_of_ok _ short h).trans (Pseudo.smuggleIf_of_ok e hself h).symm

/-- A built-in pseudo-selector says the same of a node whatever selector is being evaluated. -/
lemma builtin_eq_answer (q : Engine) (d : Document) (n : NodeId) {limit : Nat} :
    ∀ entry ∈ Pseudo.builtins, ∀ (argument : Text) (short : argument.length < limit),
      entry.2 (q.element d n limit) argument short = q.answer d n @entry.2 argument := by
  refine Pseudo.forall_mem_builtins
    (P := fun _ p => ∀ (argument : Text) (short : argument.length < limit),
      p (q.element d n limit) argument short = q.answer d n @p argument)
    ?ofText ?self ?closest ?smuggleIf
  case ofText => exact fun _ _ _ _ => rfl
  case self => exact fun _ _ => rfl
  case closest => exact fun _ _ => rfl
  case smuggleIf => exact fun argument short => smuggleIf_eq_answer q d n argument short

/-- A name that is looked up with an argument admits the node: it stands for nothing, or for a
pseudo-selector that holds of the node. -/
def Admits (q : Engine) (d : Document) (n : NodeId) (l : Lookup) : Prop :=
  ∀ p : Pseudo, q.registry.find? l.name = some @p → (q.answer d n @p l.argument).result = .ok true

/-- A candidate is kept exactly if every lookup of the selector admits it. -/
lemma result_retains_iff {t : Template} :
    ((Engine.mk t .standard).retains d s n).result = .ok true ↔
      ∀ o ∈ t.occurrences s, (Engine.mk t .standard).Admits d n (t.lookup o) := by
  rw [retains, keeps, Eval.result_excuse_iff, result_holdAll_iff]
  constructor
  · intro h o ho p hp
    have hc : (⟨@p, t.argument o, Template.length_argument_lt ho⟩ : Call s.length) ∈
        (Engine.mk t .standard).calls s :=
      List.mem_filterMap.2 ⟨⟨o, ho⟩, List.mem_attach _ _, Option.map_eq_some_iff.2 ⟨@p, hp, rfl⟩⟩
    have hbuiltin : (o.name, @p) ∈ Pseudo.builtins := Registry.find?_standard_eq_some_iff.1 hp
    exact builtin_eq_answer _ d n _ hbuiltin (t.argument o) (Template.length_argument_lt ho) ▸
      h _ hc
  · intro h c hc
    obtain ⟨o, ho, hargument, hbuiltin⟩ := exists_occurrence_of_mem_calls hc
    have hadmits := h o ho _ (Registry.find?_standard_eq_some_iff.2 hbuiltin)
    have hanswer := builtin_eq_answer (Engine.mk t .standard) d n _ hbuiltin c.argument c.short
    dsimp only at hanswer
    rw [hanswer, hargument]
    exact hadmits

/-! ## What is found -/

/-- The candidates that all lookups of a selector admit are what is found. -/
lemma result_findAll_of_decompose {t : Template} {g : Decomposition Occurrence} {ns : List NodeId}
    (hs : trim s ≠ []) (hg : t.decompose s = g)
    (hns : d.targets root (trim g.fragments.flatten) = .ok ns) {holds : NodeId → Bool}
    (hholds : ∀ n, holds n = true ↔
      ∀ l ∈ g.items.map t.lookup, (Engine.mk t .standard).Admits d n l) :
    ((Engine.mk t .standard).findAll d root s).result = .ok (ns.filter holds) := by
  subst hg
  rw [← base_eq] at hns
  have hretains (n : NodeId) : ((Engine.mk t .standard).retains d s n).result = .ok (holds n) := by
    obtain ⟨b, hb⟩ := (Engine.mk t .standard).exists_result_retains d s n
    have hiff := (result_retains_iff (t := t) (d := d) (n := n) (s := s)).trans
      (List.forall_mem_map.symm.trans (occurrences_eq t s ▸ (hholds n).symm))
    rw [hb, Except.ok.injEq, ← Bool.eq_iff_iff] at hiff
    rw [hb, hiff]
  have hsame := ((Engine.mk t .standard).findAllScanning_agrees d root hs).1
  rw [findAllScanning_eq_search, search_of_ok hns, Eval.result_keep fun n _ => hretains n] at hsame
  exact hsame.eq_ok

lemma trim_ne_nil_of_mem_open (h : '(' ∈ s) : trim s ≠ [] := fun hnil =>
  absurd (isBlank_of_trim_eq_nil hnil h) (by decide)

/-! ## One occurrence by itself -/

/-- An occurrence by itself keeps a node: if nothing but this occurrence is asked at the node, the
node itself is found. -/
def RetainedBy (q : Engine) (d : Document) (n : NodeId) (o : Occurrence) : Prop :=
  (q.findAll d n (q.template.written o)).result = .ok [n]

instance (q : Engine) (d : Document) (n : NodeId) (o : Occurrence) :
    Decidable (q.RetainedBy d n o) :=
  inferInstanceAs (Decidable (_ = _))

/-- An occurrence by itself keeps a node exactly if its lookup admits the node. -/
lemma retainedBy_iff {t : Template} (ho : occurrence? t (t.written o) = some (o, [])) :
    (Engine.mk t .standard).RetainedBy d n o ↔ (Engine.mk t .standard).Admits d n (t.lookup o) := by
  classical
  have hdecompose : t.decompose (t.written o) = .cons [] o (.last []) := by
    rw [decompose_of_occurrence? ho, decompose_nil]
  have hopen : '(' ∈ t.written o := by simp [written]
  have hresult : ((Engine.mk t .standard).findAll d n (t.written o)).result =
      .ok ([n].filter fun m => (Engine.mk t .standard).Admits d m (t.lookup o)) :=
    result_findAll_of_decompose (trim_ne_nil_of_mem_open hopen) hdecompose rfl
      (by simp [Decomposition.items])
  unfold RetainedBy
  rw [hresult]
  by_cases h : (Engine.mk t .standard).Admits d n (t.lookup o) <;> simp [h]

/-! ## Assembled selectors -/

section Assembled

variable {t : Template} {g : Decomposition Occurrence}

/-- Fragments that leave candidates leave a list of them in document order. -/
lemma exists_targets (d : Document) (root : NodeId) (hfounded : g.Founded) :
    ∃ ns, d.targets root (trim g.fragments.flatten) = .ok ns ∧ ns.Pairwise (· < ·) := by
  rcases hfounded with ⟨list, hlist⟩ | ⟨hnil, -⟩
  · refine ⟨_, ?_, (Document.pairwise_lt_descendants d root).filter (list.holds d)⟩
    rw [← trim_trim]
    exact d.targets_trim root hlist
  · exact ⟨[root], by rw [hnil, Document.targets, if_pos rfl], List.pairwise_singleton _ _⟩

/-- A selector whose fragments leave candidates is more than blanks. -/
lemma trim_text_ne_nil (t : Template) (hfounded : g.Founded) : trim (g.text t.written) ≠ [] := by
  cases g with
  | last f =>
    rcases hfounded with ⟨list, hlist⟩ | ⟨-, hne⟩
    · have hne := Native.trim_ne_nil_of_parse hlist
      rw [trim_trim] at hne
      simpa [Decomposition.fragments, Decomposition.text] using hne
    · exact absurd rfl hne
  | cons f o g => exact trim_ne_nil_of_mem_open (by simp [Decomposition.text, written])

/-- What is found for an assembled selector are the candidates that all its lookups admit. -/
lemma result_findAll_assembled (hlead : Unbordered t.lead) (hg : g.Assembled t)
    (hfounded : g.Founded) {ns : List NodeId}
    (hns : d.targets root (trim g.fragments.flatten) = .ok ns) {holds : NodeId → Bool}
    (hholds : ∀ n, holds n = true ↔
      ∀ l ∈ g.items.map t.lookup, (Engine.mk t .standard).Admits d n l) :
    ((Engine.mk t .standard).findAll d root (g.text t.written)).result = .ok (ns.filter holds) :=
  result_findAll_of_decompose (trim_text_ne_nil t hfounded) (hg.decompose_text hlead) hns hholds

/-- Lookups of names that stand for nothing admit every node. -/
lemma admits_of_unknown (h : q.registry.find? l.name = none) : q.Admits d n l := by
  simp [Admits, h]

/-- Lookups of registered names admit the nodes that the pseudo-selector says yes of. -/
lemma admits_of_known {p : Pseudo} (h : q.registry.find? l.name = some @p) :
    q.Admits d n l ↔ (q.answer d n @p l.argument).result = .ok true := by
  simp [Admits, h]

/-- Whether all lookups admit a node is settled by the set of those whose names are registered. -/
lemma forall_admits_congr {ls ls' : List Lookup}
    (h : ∀ l : Lookup, (q.registry.find? l.name).isSome → (l ∈ ls ↔ l ∈ ls')) :
    (∀ l ∈ ls, q.Admits d n l) ↔ ∀ l ∈ ls', q.Admits d n l := by
  refine forall_congr' fun l => ?_
  cases hl : q.registry.find? l.name with
  | none => simp [admits_of_unknown hl]
  | some p => rw [h l (by simp [hl])]

/-- All lookups of occurrences admit a node exactly if each registered one keeps it by itself. -/
lemma forall_admits_iff {os : List Occurrence}
    (hcomplete : ∀ o ∈ os, occurrence? t (t.written o) = some (o, [])) :
    (∀ l ∈ os.map t.lookup, (Engine.mk t .standard).Admits d n l) ↔
      ∀ o ∈ os, (Registry.standard.find? o.name).isSome →
        (Engine.mk t .standard).RetainedBy d n o := by
  rw [List.forall_mem_map]
  refine forall₂_congr fun o ho => ?_
  rw [retainedBy_iff (hcomplete o ho)]
  cases hfind : Registry.standard.find? o.name with
  | none => simp [admits_of_unknown (q := Engine.mk t .standard) (l := t.lookup o) hfind]
  | some p => simp

end Assembled

/-- **Pseudo-selectors are a conjunction.** A selector is assembled, with the built-in template,
from fragments in which the lead does not occur and from complete occurrences, whatever their names
and arguments are. What the fragments leave is a native selector, or it is blank and there is an
occurrence. With the standard registry, what is found are the candidates for what the fragments
leave, in document order, that each registered occurrence keeps by itself; it keeps the nodes that
its pseudo-selector says yes of, and not those at which this fails. So another selector that is
assembled like this, leaves the same and looks up the same registered names with the same arguments
finds the same: in another order, more or less often, elsewhere in the text, and with other names in
between that are not registered.

No name is excluded. The pseudo-selector that applies a rule keeps no node, so that it may stand
among the others as far as the answer is concerned.

**Proof sketch.** Scanning gives back the fragments and the occurrences
(`Decomposition.Assembled.decompose_text`). Of a candidate it is asked whether all calls hold, a
failure on the way being a no (`result_retains_iff`), and a built-in pseudo-selector gives the same
answer in the assembled selector and by itself (`builtin_eq_answer`). -/
theorem findAll_conjunction (d : Document) (root : NodeId) {g : Decomposition Occurrence}
    (hg : g.Assembled Template.default) (hfounded : g.Founded) :
    let t := Template.default
    let q : Engine := ⟨t, .standard⟩
    (∃ ns, d.targets root (trim g.fragments.flatten) = .ok ns ∧ ns.Pairwise (· < ·) ∧
      (q.findAll d root (g.text t.written)).result =
        .ok (ns.filter fun n =>
          ∀ o ∈ g.items, (q.registry.find? o.name).isSome → q.RetainedBy d n o)) ∧
      (∀ o ∈ g.items, ∀ p : Pseudo, q.registry.find? o.name = some @p → ∀ n,
        q.RetainedBy d n o ↔ (q.answer d n @p (t.argument o)).result = .ok true) ∧
      ∀ g' : Decomposition Occurrence, g'.Assembled t → g'.Founded →
        trim g'.fragments.flatten = trim g.fragments.flatten →
        (∀ l : Lookup, (q.registry.find? l.name).isSome →
          (l ∈ g'.items.map t.lookup ↔ l ∈ g.items.map t.lookup)) →
        (q.findAll d root (g'.text t.written)).result =
          (q.findAll d root (g.text t.written)).result := by
  intro t q
  obtain ⟨ns, hns, hordered⟩ := exists_targets d root hfounded
  have hresult (g' : Decomposition Occurrence) (hg' : g'.Assembled t) (hfounded' : g'.Founded)
      (htrim : trim g'.fragments.flatten = trim g.fragments.flatten)
      (hsame : ∀ l : Lookup, (q.registry.find? l.name).isSome →
        (l ∈ g'.items.map t.lookup ↔ l ∈ g.items.map t.lookup)) :
      (q.findAll d root (g'.text t.written)).result =
        .ok (ns.filter fun n =>
          ∀ o ∈ g.items, (q.registry.find? o.name).isSome → q.RetainedBy d n o) := by
    refine result_findAll_assembled unbordered_lead_default hg' hfounded' (htrim ▸ hns) fun n => ?_
    rw [decide_eq_true_iff]
    exact (forall_admits_iff hg.complete).symm.trans (forall_admits_congr hsame).symm
  have hself := hresult g hg hfounded rfl fun _ _ => Iff.rfl
  refine ⟨⟨ns, hns, hordered, hself⟩, fun o ho p hp n => ?_, fun g' hg' hfounded' htrim hsame =>
    (hresult g' hg' hfounded' htrim hsame).trans hself.symm⟩
  exact (retainedBy_iff (hg.complete o ho)).trans (admits_of_known hp)

/-- A fragment that ends as the lead begins, with two pseudo-selectors behind it. They may stand
elsewhere and be repeated, also with a name in between that is not registered. And with a native
question that breaks off, so that it fails at every node. -/
theorem findAll_conjunction_rearranged :
    let markup : Text := "<r><p class='advanced-'>ab</p><p class='advanced-'>ac</p></r>".toList
    let d : Document := ⟨#[⟨0, .element ['r'] []⟩,
      ⟨1, .element ['p'] [⟨"class".toList, "advanced-".toList⟩]⟩, ⟨2, .text "ab".toList⟩,
      ⟨1, .element ['p'] [⟨"class".toList, "advanced-".toList⟩]⟩, ⟨4, .text "ac".toList⟩],
      by decide⟩
    let t := Template.default
    let q : Engine := ⟨t, .standard⟩
    let starts : Occurrence := ⟨"startsWith".toList, ['a']⟩
    let ends : Occurrence := ⟨"endsWith".toList, ['b']⟩
    let g : Decomposition Occurrence := .cons "p.advanced-".toList starts
      (.cons [' '] ends (.last []))
    let g' : Decomposition Occurrence := .cons [] ends (.cons "p.".toList ⟨"later".toList, []⟩
      (.cons [] starts (.cons "advanced-".toList ends (.last []))))
    let broken : Decomposition Occurrence := .cons "p.advanced-".toList ⟨"self".toList, ['[']⟩
      (.cons [' '] ends (.last []))
    Document.ofMarkup markup = .ok d ∧
      (q.findAll d 0 (g.text t.written)).result = .ok [2] ∧
      (q.findAll d 0 (g'.text t.written)).result = .ok [2] ∧
      (q.findAll d 0 (broken.text t.written)).result = .ok [] := by
  intro markup d t q starts ends g g' broken
  have hparse : Native.SelectorList.parse "p.advanced-".toList =
      .ok [.single ⟨some ['p'], [], ["advanced-".toList], []⟩] := by decide +kernel
  have hmarkup : Document.ofMarkup markup = .ok d := by decide +kernel
  have htargets : d.targets 0 "p.advanced-".toList = .ok [2, 4] := by decide +kernel
  have htrim : trim g.fragments.flatten = "p.advanced-".toList := by decide +kernel
  have htrim' : trim g'.fragments.flatten = "p.advanced-".toList := by decide +kernel
  have htrimBroken : trim broken.fragments.flatten = "p.advanced-".toList := by decide +kernel
  have hg : g.Assembled t := ⟨by decide +kernel, by decide +kernel⟩
  have hg' : g'.Assembled t := ⟨by decide +kernel, by decide +kernel⟩
  have hbroken : broken.Assembled t := ⟨by decide +kernel, by decide +kernel⟩
  have hsame (l : Lookup) (hl : (q.registry.find? l.name).isSome) :
      l ∈ g'.items.map t.lookup ↔ l ∈ g.items.map t.lookup := by
    have hlater : l ≠ t.lookup ⟨"later".toList, []⟩ := by
      rintro rfl
      exact absurd hl (by decide +kernel)
    simp only [g, g', Decomposition.items, List.map_cons, List.map_nil, List.mem_cons,
      List.not_mem_nil, hlater, or_false, false_or]
    exact ⟨fun h => h.elim Or.inr id, Or.inr⟩
  obtain ⟨⟨ns, hns, -, hfound⟩, -, hother⟩ :=
    findAll_conjunction d 0 hg (.inl ⟨_, htrim.symm ▸ hparse⟩)
  obtain ⟨⟨ns', hns', -, hfoundBroken⟩, -⟩ :=
    findAll_conjunction d 0 hbroken (.inl ⟨_, htrimBroken.symm ▸ hparse⟩)
  obtain rfl : [2, 4] = ns := Except.ok.inj (htargets.symm.trans (htrim ▸ hns))
  obtain rfl : [2, 4] = ns' := Except.ok.inj (htargets.symm.trans (htrimBroken ▸ hns'))
  have hone : (q.findAll d 0 (g.text t.written)).result = .ok [2] :=
    hfound.trans (congrArg Except.ok (by decide +kernel))
  refine ⟨hmarkup, hone, ?_, hfoundBroken.trans (congrArg Except.ok (by decide +kernel))⟩
  exact (hother g' hg' (.inl ⟨_, htrim'.symm ▸ hparse⟩) (htrim'.trans htrim.symm) hsame).trans hone

end Engine

end TreeQuery
