import TreeQuery.Proofs.Engine.Carrier
import TreeQuery.Proofs.Engine.Dispatch

set_option relaxedAutoImplicit false
set_option autoImplicit false

/-!
# Pseudo-selectors that ask native questions

Two of the built-in pseudo-selectors ask a native question about a candidate: whether it satisfies
the native selector in the argument, and whether it or a node above it does. Written behind a
fragment they restrict what the fragment selects to what the native queries say, and nothing is lost
on the way through escaping, scanning and unescaping. A question that makes no sense makes sense at
no candidate: none is kept, and each leaves one notice.

## Main definitions

* `TreeQuery.Engine.asking` — a fragment with a pseudo-selector behind it.

## Main results

* `TreeQuery.Engine.Carries.findAll_of_question` — what is kept if the question makes sense.
* `TreeQuery.Engine.Carries.findAll_of_rejected` — what is noticed if it does not.
* `TreeQuery.Engine.questions_restrict` — the two pseudo-selectors against the native queries.
-/

namespace TreeQuery

open Text

namespace Engine

open Template

/-! ## The selector as it is written -/

/-- The selector with a fragment and a pseudo-selector behind it. Backslashes and double quotes of
the argument get a backslash in front of them. -/
def asking (b name argument : Text) : Text :=
  b ++ " advanced-selector-".toList ++ name ++ "(\"".toList ++
    argument.flatMap (escapeChar '"') ++ "\")".toList

lemma asking_eq_carrier (b name argument : Text) :
    asking b name argument = Template.default.carrier b ⟨name, argument⟩ := by
  have hlead : " advanced-selector-".toList = ' ' :: Template.default.lead := by decide
  have hopen : "(\"".toList = ['(', '"'] := by decide
  have hclose : "\")".toList = ['"', ')'] := by decide
  have htrail : Template.default.trail = [] := rfl
  have hwrapper : Template.default.wrapper = ['"'] := rfl
  unfold asking carrier writtenFor written occurrenceFor
  rw [hlead, hopen, hclose, htrail, hwrapper, escape_singleton]
  generalize Template.default.lead = lead
  simp

/-- A fragment with a registered pseudo-selector behind it carries this pseudo-selector. -/
lemma carries_asking {name : Text} {p : Pseudo} {b : Text}
    (hp : (name, @p) ∈ Pseudo.builtins) (hword : name.all isWord = true) (hne : name ≠ [])
    (hb : ¬ Template.default.lead <:+: b) (argument : Text) :
    Carries ⟨.default, .standard⟩ (asking b name argument) (trim b) p argument := by
  rw [asking_eq_carrier]
  exact carries_carrier (Registry.find?_standard_eq_some_iff.2 hp) hne (List.all_eq_true.1 hword)
    hb argument

/-! ## Questions about candidates -/

/-- The pseudo-selector asks a native question: with an argument that is a native selector it says
of a node what `holds` says, and with any other it fails with the rejection of the argument. -/
def Asks (q : Engine) (d : Document) (p : Pseudo)
    (holds : Native.SelectorList → NodeId → Bool) : Prop :=
  ∀ (n : NodeId) (limit : Nat) (argument : Text) (short : argument.length < limit),
    p (q.element d n limit) argument short =
      Eval.ofNative ((Native.SelectorList.parse argument).map fun list => holds list n)

lemma asks_self (q : Engine) (d : Document) :
    q.Asks d Pseudo.self fun list n => list.holds d n := fun _ _ _ _ => rfl

lemma asks_closest (q : Engine) (d : Document) :
    q.Asks d Pseudo.closest fun list n => (n :: d.ancestors n).any fun a => list.holds d a := by
  intro n limit argument short
  show (do return (← Eval.ofNative (d.closest n argument)).isSome) = _
  rw [Document.closest]
  cases Native.SelectorList.parse argument with
  | error e => rfl
  | ok list =>
    refine congrArg Eval.ok ?_
    rw [Bool.eq_iff_iff, List.find?_isSome, List.any_eq_true]

namespace Carries

variable {q : Engine} {d : Document} {root : NodeId} {s base argument : Text} {p : Pseudo}
  {holds : Native.SelectorList → NodeId → Bool} {ns : List NodeId}

/-- **A question that makes sense** keeps the candidates of which it holds, and does nothing
else. -/
theorem findAll_of_question (h : q.Carries s base @p argument) (hp : q.Asks d @p holds)
    {list : Native.SelectorList} (hparse : Native.SelectorList.parse argument = .ok list)
    (hns : d.targets root base = .ok ns) :
    q.findAll d root s = .ok (ns.filter (holds list)) := by
  obtain ⟨short, hretains⟩ := h.retains_eq d
  have hkeep : ∀ n ∈ ns, q.retains d s n = .ok (holds list n) := by
    intro n _
    rw [hretains n, hp, hparse]
    rfl
  rw [h.findAll_eq, hns]
  exact Eval.keep_of_ok hkeep

/-- **A question that makes no sense** keeps no candidate, and there is one notice for each of
them. -/
theorem findAll_of_rejected (h : q.Carries s base @p argument) (hp : q.Asks d @p holds)
    {e : Native.InvalidSelector} (hparse : Native.SelectorList.parse argument = .error e)
    (hns : d.targets root base = .ok ns) :
    q.findAll d root s =
      ⟨.ok [], ns.map fun n => .notice (.predicateFailed s n (.invalidSelector e))⟩ := by
  obtain ⟨short, hretains⟩ := h.retains_eq d
  have hno : ∀ n, q.retains d s n =
      ⟨.ok false, [.notice (.predicateFailed s n (.invalidSelector e))]⟩ := by
    intro n
    rw [hretains n, hp, hparse]
    rfl
  have hkeep : Eval.keep (q.retains d s) ns =
      ⟨.ok [], ns.flatMap fun n => (q.retains d s n).effects⟩ :=
    Eval.keep_of_no fun n _ => by rw [hno n]
  rw [h.findAll_eq, hns]
  refine (Eval.ok_bind ns _).trans (hkeep.trans ?_)
  simp only [hno, List.map_eq_flatMap]

end Carries

/-! ## The two questions as they are written -/

variable {d : Document} {root : NodeId} {b s : Text} {ns : List NodeId}

/-- The nodes below a node that satisfy two selectors are those that satisfy the first one and are
selected by the second one. -/
lemma filter_holds_eq (d : Document) (root : NodeId) (list list' : Native.SelectorList) :
    ((d.descendants root).filter (list.holds d)).filter (list'.holds d) =
      ((d.descendants root).filter (list.holds d)).filter
        (· ∈ (d.descendants root).filter (list'.holds d)) := by
  refine List.filter_congr fun n hn => ?_
  rw [Bool.eq_iff_iff, decide_eq_true_iff, List.mem_filter]
  exact (and_iff_right (List.mem_filter.1 hn).1).symm

/-- The star selects all elements, so that it leaves of what a selector selects everything. -/
lemma filter_star (d : Document) (root : NodeId) (list : Native.SelectorList) :
    ∃ star, Native.SelectorList.parse ['*'] = .ok star ∧
      ((d.descendants root).filter (star.holds d)).filter (list.holds d) =
        (d.descendants root).filter (list.holds d) := by
  refine ⟨[.single ⟨none, [], [], []⟩], by decide +kernel, ?_⟩
  rw [List.filter_filter]
  refine List.filter_congr fun n _ => ?_
  cases h : d.isElement n <;>
    simp [Native.SelectorList.holds, Native.Complex.holds, Native.Compound.holds, h]

/-- **The two pseudo-selectors agree with the native queries.** The fragment `b` is a native
selector in which the lead does not occur. If the argument is a native selector, the query with
`self` gives of what the fragment selects, in document order, what the argument selects as well;
behind a star it is the plain query for the argument, if the lead does not occur in that. The query
with `closest` gives of what the fragment selects the nodes that satisfy the argument or have a node
above them that does, wherever in the document that is. Neither has any effects. If the argument is
no native selector both queries find nothing, and leave one notice for each node that the fragment
selects.

**Proof sketch.** The selector carries the pseudo-selector with the argument as it was before it was
escaped (`carries_asking`), which asks the document about every candidate. What the argument holds
of does not depend on the query (`filter_holds_eq`). -/
theorem questions_restrict (d : Document) (root : NodeId) {b s : Text}
    {list : Native.SelectorList} (hb : ¬ Template.default.lead <:+: b)
    (hlist : Native.SelectorList.parse b = .ok list) :
    let q : Engine := ⟨.default, .standard⟩
    ∃ ns, d.selectAll root b = .ok ns ∧ ns.Pairwise (· < ·) ∧
      (∀ list', Native.SelectorList.parse s = .ok list' →
        ∃ ms, d.selectAll root s = .ok ms ∧
          q.findAll d root (asking b "self".toList s) = .ok (ns.filter (· ∈ ms)) ∧
          (¬ Template.default.lead <:+: s →
            q.findAll d root (asking ['*'] "self".toList s) = q.findAll d root s) ∧
          q.findAll d root (asking b "closest".toList s) =
            .ok (ns.filter fun n => ∃ a ∈ n :: d.ancestors n, d.satisfies a s = .ok true)) ∧
      ∀ e, Native.SelectorList.parse s = .error e →
        ∀ name ∈ ["self".toList, "closest".toList],
          q.findAll d root (asking b name s) =
            ⟨.ok [], ns.map fun n =>
              .notice (.predicateFailed (asking b name s) n (.invalidSelector e))⟩ := by
  intro q
  have hself (b : Text) (hb : ¬ Template.default.lead <:+: b) :
      q.Carries (asking b "self".toList s) (trim b) Pseudo.self s :=
    carries_asking (by simp [Pseudo.builtins]) (by decide +kernel) (by decide) hb s
  have hclosest : q.Carries (asking b "closest".toList s) (trim b) Pseudo.closest s :=
    carries_asking (by simp [Pseudo.builtins]) (by decide +kernel) (by decide) hb s
  have hselect : d.selectAll root b = .ok ((d.descendants root).filter (list.holds d)) := by
    rw [Document.selectAll, hlist]
    rfl
  refine ⟨_, hselect, Document.pairwise_lt_of_selectAll hselect, fun list' hlist' => ?_,
    fun e he name hname => ?_⟩
  · have hselect' : d.selectAll root s = .ok ((d.descendants root).filter (list'.holds d)) := by
      rw [Document.selectAll, hlist']
      rfl
    refine ⟨_, hselect', ?_, fun hs => ?_, ?_⟩
    · rw [(hself b hb).findAll_of_question (asks_self q d) hlist' (d.targets_trim root hlist),
        filter_holds_eq]
    · obtain ⟨star, hstar, hfilter⟩ := filter_star d root list'
      rw [(hself ['*'] (by decide)).findAll_of_question (asks_self q d) hlist'
          (d.targets_trim root hstar), hfilter,
        findAll_of_native (by simp [hasPseudo, q, gate_of_not_infix hs]), hselect']
      rfl
    · rw [hclosest.findAll_of_question (asks_closest q d) hlist' (d.targets_trim root hlist)]
      refine congrArg Eval.ok (List.filter_congr fun n _ => ?_)
      rw [Bool.eq_iff_iff, decide_eq_true_iff, List.any_eq_true]
      simp only [Document.satisfies, hlist', Except.map, Except.ok.injEq]
  · simp only [List.mem_cons, List.not_mem_nil, or_false] at hname
    rcases hname with rfl | rfl
    · exact (hself b hb).findAll_of_rejected (asks_self q d) he (d.targets_trim root hlist)
    · exact hclosest.findAll_of_rejected (asks_closest q d) he (d.targets_trim root hlist)

/-- An argument with both kinds of quotes and a comma, asked below a node: only the document
element, which lies above that node, satisfies its second part. And an argument that breaks off. -/
theorem questions_restrict_above :
    let d : Document := ⟨#[⟨0, .element ['r'] [⟨"class".toList, ['x']⟩]⟩, ⟨1, .element ['a'] []⟩,
      ⟨2, .element ['b'] [⟨['t'], ['q', '"']⟩]⟩, ⟨2, .element ['b'] []⟩], by decide⟩
    let q : Engine := ⟨.default, .standard⟩
    let s : Text := "[t='q\"'], .x".toList
    let s' : Text := asking ['b'] "closest".toList ['[']
    let e : Native.InvalidSelector := ⟨['['], .unreadable ['[']⟩
    asking ['b'] "self".toList s = "b advanced-selector-self(\"[t='q\\\"'], .x\")".toList ∧
      q.findAll d 2 (asking ['b'] "self".toList s) = .ok [3] ∧
      q.findAll d 2 (asking ['*'] "self".toList s) = q.findAll d 2 s ∧
      q.findAll d 2 (asking ['b'] "closest".toList s) = .ok [3, 4] ∧
      q.findAll d 2 s' =
        ⟨.ok [], [3, 4].map fun n => .notice (.predicateFailed s' n (.invalidSelector e))⟩ := by
  intro d q s s' e
  let b' : Native.Compound := ⟨some ['b'], [], [], []⟩
  let t' : Native.Compound := ⟨none, [], [], [⟨['t'], some (.equals, ['q', '"'])⟩]⟩
  let x' : Native.Compound := ⟨none, [], [['x']], []⟩
  have hb : ¬ Template.default.lead <:+: ['b'] := by decide
  have hs : ¬ Template.default.lead <:+: s := by decide +kernel
  have hlist : Native.SelectorList.parse ['b'] = .ok [.single b'] := by decide +kernel
  have hlist' : Native.SelectorList.parse s = .ok [.single t', .single x'] := by decide +kernel
  have he : Native.SelectorList.parse ['['] = .error e := by decide +kernel
  have hselect : d.selectAll 2 ['b'] = .ok [3, 4] := by decide +kernel
  have hselect' : d.selectAll 2 s = .ok [3] := by decide +kernel
  have hself : [3, 4].filter (· ∈ [3]) = [3] := by decide
  have hclosest : ([3, 4] : List NodeId).filter
      (fun n => ∃ a ∈ n :: d.ancestors n, d.satisfies a s = .ok true) = [3, 4] := by
    decide +kernel
  obtain ⟨ns, hns, -, hanswer, -⟩ := questions_restrict (s := s) d 2 hb hlist
  obtain ⟨ns', hns', -, -, hreject⟩ := questions_restrict (s := ['[']) d 2 hb hlist
  obtain rfl : [3, 4] = ns := Except.ok.inj (hselect.symm.trans hns)
  obtain rfl : [3, 4] = ns' := Except.ok.inj (hselect.symm.trans hns')
  obtain ⟨ms, hms, hanswerSelf, hanswerStar, hanswerClosest⟩ := hanswer _ hlist'
  obtain rfl : [3] = ms := Except.ok.inj (hselect'.symm.trans hms)
  exact ⟨by decide, hanswerSelf.trans (congrArg Eval.ok hself), hanswerStar hs,
    hanswerClosest.trans (congrArg Eval.ok hclosest), hreject e he "closest".toList (by simp)⟩

end Engine

end TreeQuery
