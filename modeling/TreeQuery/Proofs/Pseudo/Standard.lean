import Mathlib.Data.List.Nodup
import Mathlib.Tactic.Lemma
import TreeQuery.Engine
import TreeQuery.Proofs.Evaluation.Search

set_option relaxedAutoImplicit false
set_option autoImplicit false

/-!
# What the built-in pseudo-selectors do to nodes

A built-in pseudo-selector with its argument is of one of two kinds. Either it tests: it says yes
or no of every node and does nothing else. Or it rejects: it says yes of no node at all, because
its argument makes no sense, whatever the node is, or because it applies a rule.

## Main definitions

* `TreeQuery.Call.Tests`, `TreeQuery.Call.Rejects` — the two kinds.

## Main results

* `TreeQuery.Registry.find?_standard_eq_some_iff` — what the names of the standard registry stand
  for.
* `TreeQuery.Pseudo.forall_mem_builtins` — the kinds of built-in pseudo-selectors.
* `TreeQuery.Pseudo.smuggleIf_of_ok`, `TreeQuery.Pseudo.smuggleIf_of_error` — applying a rule.
* `TreeQuery.Engine.tests_or_rejects` — the calls of a selector with the standard registry.
-/

namespace TreeQuery

/-! ## Names -/

namespace Registry

lemma find?_insert (r : Registry) (name other : Text) (p : Pseudo) :
    (r.insert name @p).find? other = if other = name then some @p else r.find? other :=
  Table.get?_put name other (@p) r.entries

/-- After registering pseudo-selectors under different names, each name stands for what was
registered under it, and all other names for what they stood for before. -/
lemma find?_foldl_insert {entries : List (Text × Pseudo)} (h : (entries.map Prod.fst).Nodup)
    (r : Registry) (name : Text) (p : Pseudo) :
    (entries.foldl (fun r entry => r.insert entry.1 entry.2) r).find? name = some @p ↔
      (name, @p) ∈ entries ∨ name ∉ entries.map Prod.fst ∧ r.find? name = some @p := by
  induction entries generalizing r with
  | nil => simp
  | cons entry entries ih =>
    obtain ⟨other, p'⟩ := entry
    obtain ⟨hother, hentries⟩ := List.nodup_cons.1 h
    refine (ih hentries (r.insert other @p')).trans ?_
    rw [find?_insert]
    by_cases hname : name = other
    · subst hname
      have hmem : (name, @p) ∉ entries := fun hp => hother (List.mem_map.2 ⟨_, hp, rfl⟩)
      simp [hother, hmem, eq_comm]
    · simp [hname]

/-- **The standard registry** knows the names of the built-in pseudo-selectors, and no other. -/
theorem find?_standard_eq_some_iff {name : Text} {p : Pseudo} :
    standard.find? name = some @p ↔ (name, @p) ∈ Pseudo.builtins := by
  have hnames : (Pseudo.builtins.map Prod.fst).Nodup := by decide
  have hempty : empty.find? name = none := rfl
  rw [standard, find?_foldl_insert hnames, hempty]
  simp

end Registry

namespace Pseudo

/-- What holds of all tests of the text, of the two native questions and of applying a rule holds
of every built-in pseudo-selector with its name. -/
lemma forall_mem_builtins {P : Text → Pseudo → Prop}
    (hText : ∀ (name : Text) (test : (text argument : Text) → Bool), P name (ofText test))
    (hself : P "self".toList self) (hclosest : P "closest".toList closest)
    (hsmuggleIf : P "smuggleIf".toList smuggleIf) : ∀ entry ∈ builtins, P entry.1 @entry.2 := by
  unfold builtins
  refine List.forall_mem_cons.2 ⟨hText _ textContains, ?_⟩
  refine List.forall_mem_cons.2 ⟨hText _ textContainsAny, ?_⟩
  refine List.forall_mem_cons.2 ⟨hText _ textEquals, ?_⟩
  refine List.forall_mem_cons.2 ⟨hText _ textStarts, ?_⟩
  refine List.forall_mem_cons.2 ⟨hText _ textEnds, ?_⟩
  refine List.forall_mem_cons.2 ⟨hself, List.forall_mem_cons.2 ⟨hclosest, ?_⟩⟩
  exact List.forall_mem_singleton.2 hsmuggleIf

/-! ## Applying a rule -/

variable {limit : Nat} (e : Element limit) {argument : Text} (short : argument.length < limit)

/-- An argument that holds a rule: the rule is applied to the element. -/
lemma smuggleIf_of_ok {r : Rule} (h : Rule.ofJson argument = .ok r) :
    smuggleIf e argument short =
      e.settle r (Nat.lt_trans (Rule.length_selector_lt h) short) >>= fun _ => .ok false := by
  unfold smuggleIf
  split
  · rename_i problem hp
    simp [hp] at h
  · rename_i r' hr
    obtain rfl : r' = r := Except.ok.inj (hr.symm.trans h)
    rfl

/-- An argument that holds no rule: nothing is done. -/
lemma smuggleIf_of_error {problem : Json.Problem} (h : Rule.ofJson argument = .error problem) :
    smuggleIf e argument short =
      .fail (.badArgument "smuggleIf".toList problem.message) := by
  unfold smuggleIf
  split
  · rename_i problem' hp
    obtain rfl : problem' = problem := Except.error.inj (hp.symm.trans h)
    rfl
  · rename_i r hr
    simp [hr] at h

/-- Applying a rule never holds. -/
lemma result_smuggleIf_ne : (smuggleIf e argument short).result ≠ .ok true := by
  cases h : Rule.ofJson argument with
  | error problem =>
    rw [smuggleIf_of_error e short h]
    simp [Eval.fail]
  | ok r =>
    rw [smuggleIf_of_ok e short h]
    cases hr : (e.settle r (Nat.lt_trans (Rule.length_selector_lt h) short)).result with
    | error error => simp [Eval.bind_of_error hr]
    | ok found => simp [Eval.bind_of_ok hr, Eval.ok]

end Pseudo

/-! ## Tests and rejections -/

namespace Call

variable {limit : Nat}

/-- The call only tests: it says yes or no of every node, and does nothing else. -/
def Tests (c : Call limit) (view : NodeId → Element limit) : Prop :=
  ∃ holds : NodeId → Bool, ∀ n, c.pseudo (view n) c.argument c.short = .ok (holds n)

/-- The call says yes of no node. -/
def Rejects (c : Call limit) (view : NodeId → Element limit) : Prop :=
  ∀ n, (c.pseudo (view n) c.argument c.short).result ≠ .ok true

/-- A pseudo-selector that reads the text of the element only tests. -/
lemma tests_ofText (test : (text argument : Text) → Bool) (argument : Text)
    (short : argument.length < limit) (view : NodeId → Element limit) :
    Tests ⟨Pseudo.ofText test, argument, short⟩ view :=
  ⟨fun n => test (view n).text argument, fun _ => rfl⟩

end Call

namespace Engine

open Call

/-- A native question about nodes: if the selector of the question is no native selector, then
that is so at every node. -/
lemma tests_or_rejects_native {limit : Nat} {c : Call limit} {view : NodeId → Element limit}
    {α : Type} (answer : Native.SelectorList → NodeId → α) (yes : α → Bool)
    (h : ∀ n, c.pseudo (view n) c.argument c.short =
      yes <$> Eval.ofNative ((Native.SelectorList.parse c.argument).map fun l => answer l n)) :
    c.Tests view ∨ c.Rejects view := by
  cases hparse : Native.SelectorList.parse c.argument with
  | ok l =>
    refine .inl ⟨fun n => yes (answer l n), fun n => ?_⟩
    rw [h n, hparse]
    rfl
  | error e =>
    refine .inr fun n => ?_
    rw [h n, hparse, Eval.result_map]
    simp [Except.map, Eval.ofNative, Eval.fail]

/-- A built-in pseudo-selector tests or rejects, with any argument.

**Proof sketch.** The five tests of the text have no effects. The two native questions fail at
every node alike if their argument is no native selector, and have no effects otherwise. Applying
a rule never holds, also where the rule cannot be read or its own query fails. -/
lemma tests_or_rejects_builtin (q : Engine) (d : Document) (limit : Nat) :
    ∀ entry ∈ Pseudo.builtins, ∀ (argument : Text) (short : argument.length < limit),
      Tests ⟨@entry.2, argument, short⟩ (fun n => q.element d n limit) ∨
        Rejects ⟨@entry.2, argument, short⟩ fun n => q.element d n limit := by
  refine Pseudo.forall_mem_builtins
    (P := fun _ p => ∀ argument short,
      Tests ⟨@p, argument, short⟩ _ ∨ Rejects ⟨@p, argument, short⟩ _)
    ?ofText ?self ?closest ?smuggleIf
  case ofText =>
    intro _ test a h
    exact .inl (tests_ofText test a h _)
  case self =>
    intro a h
    exact tests_or_rejects_native (fun l n => l.holds d n) id fun n => (id_map _).symm
  case closest =>
    intro a h
    exact tests_or_rejects_native (fun l n => (n :: d.ancestors n).find? fun a => l.holds d a)
      Option.isSome fun n => (map_eq_pure_bind _ _).symm
  case smuggleIf =>
    intro a h
    exact .inr fun n => Pseudo.result_smuggleIf_ne _ h

/-- The call of a selector is a built-in pseudo-selector under the name of an occurrence, with the
argument of this occurrence. -/
lemma exists_occurrence_of_mem_calls {t : Template} {s : Text} {c : Call s.length}
    (hc : c ∈ (Engine.mk t .standard).calls s) :
    ∃ o ∈ t.occurrences s, c.argument = t.argument o ∧ (o.name, @c.pseudo) ∈ Pseudo.builtins := by
  obtain ⟨⟨o, ho⟩, -, hp⟩ := List.mem_filterMap.1 hc
  obtain ⟨p, hfind, rfl⟩ := Option.map_eq_some_iff.1 hp
  exact ⟨o, ho, rfl, Registry.find?_standard_eq_some_iff.1 hfind⟩

/-- **The calls of a selector test or reject**, if their names are those of the standard registry.
Which of the two a call does depends on its argument alone and not on the node. -/
theorem tests_or_rejects (t : Template) (d : Document) {s : Text} {c : Call s.length}
    (hc : c ∈ (Engine.mk t .standard).calls s) :
    c.Tests (fun n => (Engine.mk t .standard).element d n s.length) ∨
      c.Rejects fun n => (Engine.mk t .standard).element d n s.length := by
  obtain ⟨o, -, -, hbuiltin⟩ := exists_occurrence_of_mem_calls hc
  exact tests_or_rejects_builtin _ d s.length _ hbuiltin c.argument c.short

end Engine

end TreeQuery
