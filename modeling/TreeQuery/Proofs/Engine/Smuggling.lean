import Mathlib.Data.List.Permutation
import TreeQuery.Proofs.Engine.Carrier
import TreeQuery.Proofs.Engine.Failure
import TreeQuery.Proofs.Engine.FirstMatch

set_option relaxedAutoImplicit false
set_option autoImplicit false

/-!
# Rules inside selectors

A selector may carry a rule: behind a native fragment stands the pseudo-selector that applies it,
and the argument is the data text of the rule, escaped. Asking for such a selector finds nothing,
but applies the rule to the candidates for the fragment one after the other, exactly as if one had
applied it to each of them oneself. A candidate at which the rule fails leaves the properties as
they were, and the others are not affected by it.

## Main definitions

* `TreeQuery.Engine.smuggling` — a fragment with a rule behind it.
* `TreeQuery.Engine.settleEach` — the properties after a rule has been applied to some nodes.
* `TreeQuery.Engine.SettlesEach` — asking for a selector applies a rule to some nodes.

## Main results

* `TreeQuery.Engine.after_settle` — a rule that fails changes no property.
* `TreeQuery.Engine.settlesEach_of_targets` — a carried rule is applied to all candidates.
* `TreeQuery.Engine.smuggling_settlesEach` — the same for a selector as it is written.
-/

namespace TreeQuery.Engine

open Text Template

variable {q : Engine} {d : Document} {root : NodeId} {s base argument : Text} {r : Rule}

/-! ## Applying a rule to nodes -/

/-- The properties after a rule has been applied to a node. If that fails they stay as they
were. -/
def settleAt (q : Engine) (d : Document) (r : Rule) (p : Properties) (n : NodeId) : Properties :=
  match (q.settle d n r).result with
  | .ok _ => p.after (q.settle d n r).effects
  | .error _ => p

/-- The properties after a rule has been applied to nodes in order, going on after failures. -/
def settleEach (q : Engine) (d : Document) (r : Rule) (p : Properties) (ns : List NodeId) :
    Properties :=
  ns.foldl (q.settleAt d r) p

/-- Both queries for the selector `s` find nothing, and they leave the properties that applying
the rule `r` to the nodes `ns` in order leaves. -/
structure SettlesEach (q : Engine) (d : Document) (p : Properties) (root : NodeId) (s : Text)
    (r : Rule) (ns : List NodeId) : Prop where
  result_findAll : (q.findAll d root s).result = .ok []
  result_findFirst : (q.findFirst d root s).result = .ok none
  after_findAll : p.after (q.findAll d root s).effects = q.settleEach d r p ns
  after_findFirst : p.after (q.findFirst d root s).effects = q.settleEach d r p ns

/-- What applying a rule writes is what it leaves if it does not fail, and nothing if it does. -/
theorem after_settle (q : Engine) (d : Document) (r : Rule) (p : Properties) (n : NodeId) :
    p.after (q.settle d n r).effects = q.settleAt d r p n := by
  unfold settleAt
  cases h : (q.settle d n r).result with
  | ok found => rfl
  | error e => exact (q.settle_failsBeforehand d n r).after_eq h p

/-! ## A carried rule -/

/-- A candidate is not kept, and the rule has been applied to it. -/
lemma retains_smuggleIf (h : q.Carries s base @Pseudo.smuggleIf argument)
    (hr : Rule.ofJson argument = .ok r) (d : Document) (n : NodeId) :
    (q.retains d s n).result = .ok false ∧
      ∀ p : Properties, p.after (q.retains d s n).effects = q.settleAt d r p n := by
  obtain ⟨short, hretains⟩ := h.retains_eq d
  have hpseudo : Pseudo.smuggleIf (q.element d n s.length) argument short =
      q.settle d n r >>= fun _ => .ok false :=
    Pseudo.smuggleIf_of_ok _ short hr
  rw [hretains n, hpseudo]
  cases hresult : (q.settle d n r).result with
  | ok found =>
    rw [Eval.bind_of_ok hresult]
    refine ⟨rfl, fun p => ?_⟩
    simp only [Eval.excuse, Eval.ok, List.append_nil]
    exact after_settle q d r p n
  | error e =>
    rw [Eval.bind_of_error hresult]
    refine ⟨rfl, fun p => ?_⟩
    have hsettle := after_settle q d r p n
    simp only [Eval.excuse, Properties.after_append]
    rw [hsettle]
    rfl

/-- What is written at the candidates is what the rule leaves when it is applied to one after the
other. -/
lemma after_flatMap_retains (h : q.Carries s base @Pseudo.smuggleIf argument)
    (hr : Rule.ofJson argument = .ok r) (d : Document) (p : Properties) (ns : List NodeId) :
    p.after (ns.flatMap fun n => (q.retains d s n).effects) = q.settleEach d r p ns := by
  induction ns generalizing p with
  | nil => rfl
  | cons n ns ih =>
    rw [List.flatMap_cons, Properties.after_append, (retains_smuggleIf h hr d n).2 p, ih]
    rfl

/-- **A carried rule is applied to all candidates**: none of them is kept, so that no query stops
early, and a failure at one of them ends nothing. -/
theorem settlesEach_of_targets {t : Template}
    (h : (Engine.mk t .standard).Carries s base @Pseudo.smuggleIf argument)
    (hr : Rule.ofJson argument = .ok r) (p : Properties) {ns : List NodeId}
    (hns : d.targets root base = .ok ns) :
    (Engine.mk t .standard).SettlesEach d p root s r ns := by
  have hkeep := Eval.keep_of_no (l := ns) fun n _ => (retains_smuggleIf h hr d n).1
  have hall : (Engine.mk t .standard).findAll d root s =
      ⟨.ok [], ns.flatMap fun n => ((Engine.mk t .standard).retains d s n).effects⟩ := by
    rw [h.findAll_eq, hns, ← hkeep]
    exact Eval.ok_bind ns _
  have hfirst := findFirst_eq_head?_findAll t d root s
  refine ⟨?_, ?_, ?_, ?_⟩
  · rw [hall]
  · rw [hfirst, Eval.result_map, hall]
    rfl
  · rw [hall]
    exact after_flatMap_retains h hr d p ns
  · rw [hfirst, Eval.effects_map, hall]
    exact after_flatMap_retains h hr d p ns

/-- A fragment that is no native selector: both queries fail, and no property changes. -/
lemma fail_of_targets {t : Template} {pseudo : Pseudo}
    (h : (Engine.mk t .standard).Carries s base @pseudo argument) {e : Native.InvalidSelector}
    (he : d.targets root base = .error e) :
    (Engine.mk t .standard).findAll d root s = .fail (.invalidSelector e) ∧
      (Engine.mk t .standard).findFirst d root s = .fail (.invalidSelector e) := by
  have hall : (Engine.mk t .standard).findAll d root s = .fail (.invalidSelector e) := by
    rw [h.findAll_eq, he]
    rfl
  refine ⟨hall, ?_⟩
  rw [findFirst_eq_head?_findAll, hall]
  rfl

/-! ## A rule as it is written -/

/-- The selector with a fragment and a rule, given as a data text, behind it. Backslashes and
double quotes of the data text get a backslash in front of them. -/
def smuggling (b j : Text) : Text :=
  b ++ " advanced-selector-smuggleIf(\"".toList ++ j.flatMap (escapeChar '"') ++ "\")".toList

/-- A fragment with a rule behind it carries the pseudo-selector that applies the rule. -/
lemma carries_smuggling {b : Text} (hb : ¬ Template.default.lead <:+: b) (j : Text) :
    Carries ⟨.default, .standard⟩ (smuggling b j) (trim b) @Pseudo.smuggleIf j := by
  have hfind : Registry.standard.find? "smuggleIf".toList = some @Pseudo.smuggleIf := by
    refine Registry.find?_standard_eq_some_iff.2 ?_
    simp [Pseudo.builtins]
  have hword : "smuggleIf".toList.all isWord = true := by decide +kernel
  have htext : smuggling b j = Template.default.carrier b ⟨"smuggleIf".toList, j⟩ := by
    have hlead : " advanced-selector-smuggleIf(\"".toList =
        [' '] ++ Template.default.lead ++ "smuggleIf".toList ++ ['(', '"'] := by decide
    have hend : "\")".toList = ['"', ')'] := by decide
    have htrail : Template.default.trail = [] := rfl
    have hwrapper : Template.default.wrapper = ['"'] := rfl
    simp only [smuggling, carrier, writtenFor, written, occurrenceFor, hlead, hend, htrail,
      hwrapper, escape_singleton, List.append_assoc, List.cons_append, List.nil_append,
      List.append_nil]
  rw [htext]
  exact carries_carrier hfind (by decide) (List.all_eq_true.1 hword) hb j

/-- **Asking for a selector with a rule behind a fragment is applying the rule to every
candidate.** The fragment does not hold the lead, and the data text is one that a rule is read
from; otherwise both are arbitrary, so that the rule may hold further pseudo-selectors and further
rules. If the trimmed fragment is empty the root is the only candidate; if it is a native selector
the candidates are what it selects, in document order. Then both queries find nothing and leave
the properties that the rule leaves when it is applied to each candidate in turn. If the fragment
is no native selector both queries fail and no property changes.

**Proof sketch.** Escaping is undone before the data text is read, so the selector carries the
pseudo-selector with this data text (`carries_smuggling`). At a candidate the rule is applied and
the candidate is not kept (`retains_smuggleIf`); what is written at all candidates is what a fold
over them leaves, because a rule that fails writes nothing (`after_settle`). -/
theorem smuggling_settlesEach (d : Document) (p : Properties) (root : NodeId) {b j : Text}
    {r : Rule} (hb : ¬ Template.default.lead <:+: b) (hj : Rule.ofJson j = .ok r) :
    let q : Engine := ⟨.default, .standard⟩
    let s := smuggling b j
    (trim b = [] → q.SettlesEach d p root s r [root]) ∧
      (∀ list, trim b ≠ [] → Native.SelectorList.parse (trim b) = .ok list →
        ∃ ns, d.selectAll root (trim b) = .ok ns ∧ ns.Pairwise (· < ·) ∧
          q.SettlesEach d p root s r ns) ∧
      ∀ e, trim b ≠ [] → Native.SelectorList.parse (trim b) = .error e →
        (q.findAll d root s).result = .error (.invalidSelector e) ∧
          (q.findFirst d root s).result = .error (.invalidSelector e) ∧
          p.after (q.findAll d root s).effects = p ∧
          p.after (q.findFirst d root s).effects = p := by
  intro q s
  have hcarries : q.Carries s (trim b) @Pseudo.smuggleIf j := carries_smuggling hb j
  refine ⟨fun hempty => ?_, fun list hne hparse => ?_, fun e hne hparse => ?_⟩
  · refine settlesEach_of_targets hcarries hj p ?_
    rw [Document.targets, if_pos hempty]
  · have hselect : d.selectAll root (trim b) =
        .ok ((d.descendants root).filter fun n => list.holds d n) := by
      rw [Document.selectAll, hparse]
      rfl
    refine ⟨_, hselect, Document.pairwise_lt_of_selectAll hselect, ?_⟩
    refine settlesEach_of_targets hcarries hj p ?_
    rw [Document.targets, if_neg hne, hselect]
  · have hselect : d.targets root (trim b) = .error e := by
      rw [Document.targets, if_neg hne, Document.selectAll, hparse]
      rfl
    obtain ⟨hall, hfirst⟩ := fail_of_targets hcarries hselect
    rw [hall, hfirst]
    exact ⟨rfl, rfl, rfl, rfl⟩

/-- A rule with an escaped pseudo-selector in its own selector, carried to all elements of a
document, of which only the first two have what the rule asks for. -/
theorem smuggling_settlesEach_nested :
    let d : Document := ⟨#[⟨0, .element ['r'] []⟩, ⟨1, .element ['a'] []⟩,
      ⟨2, .element ['b'] []⟩, ⟨3, .text ['x']⟩, ⟨1, .element ['a'] []⟩], by decide⟩
    let j : Text := "[\"b advanced-selector-exact(\\\"x\\\")\",[\"p\",true],[\"p\",0]]".toList
    let r : Rule := ⟨"b advanced-selector-exact(\"x\")".toList, some ⟨['p'], .bool true⟩,
      some ⟨['p'], .int 0⟩⟩
    SettlesEach ⟨.default, .standard⟩ d [] 0 (smuggling ['*', '\n'] j) r [1, 2, 3, 5] := by
  intro d j r
  have hj : Rule.ofJson j = .ok r := by
    unfold j r
    cbv
  have hselect : d.selectAll 0 (trim ['*', '\n']) = .ok [1, 2, 3, 5] := by cbv
  have hparse : ∃ list, Native.SelectorList.parse (trim ['*', '\n']) = .ok list := ⟨_, by cbv⟩
  obtain ⟨list, hparse⟩ := hparse
  obtain ⟨ns, hns, -, hsettles⟩ :=
    (smuggling_settlesEach d [] 0 (by decide) hj).2.1 list (by decide) hparse
  rw [hselect, Except.ok.injEq] at hns
  exact hns ▸ hsettles

end TreeQuery.Engine
