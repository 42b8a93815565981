import TreeQuery.Proofs.Engine.Candidates
import TreeQuery.Proofs.Template.Gate

set_option relaxedAutoImplicit false
set_option autoImplicit false

/-!
# Failing before anything is tested

A query for one selector and the application of a rule fail only if the document rejects the
native part of the selector. At that time the notices of unknown names have been written and no
pseudo-selector has been evaluated, however many of them there are and whatever is nested in their
arguments. So a failure does not depend on what the registered names stand for.

## Main definitions

* `TreeQuery.Registry.SameNames` — two registries know the same names.
* `TreeQuery.Engine.FailsBeforehand` — an evaluation fails before it evaluates pseudo-selectors.

## Main results

* `TreeQuery.Engine.findFirst_failsBeforehand`, `TreeQuery.Engine.findAll_failsBeforehand`,
  `TreeQuery.Engine.settle_failsBeforehand` — queries and rules.
-/

namespace TreeQuery

/-- The registries know the same names, which may stand for different pseudo-selectors. -/
def Registry.SameNames (r r' : Registry) : Prop :=
  ∀ name, (r.find? name).isSome = (r'.find? name).isSome

namespace Engine

variable {α : Type}

/-- The engine with other pseudo-selectors. -/
def withRegistry (q : Engine) (r : Registry) : Engine := ⟨q.template, r⟩

/-- If an evaluation for the selector `s` fails, it does so before a pseudo-selector is evaluated:
it would be the same with any other pseudo-selectors under the same names, and all that it has done
is to write the notices of unknown names. -/
def FailsBeforehand (q : Engine) (s : Text) (evaluate : Engine → Eval α) : Prop :=
  ∀ error, (evaluate q).result = .error error → ∀ r, q.registry.SameNames r →
    evaluate (q.withRegistry r) = ⟨.error error, (q.unknownNotices s).map .notice⟩

/-- What fails beforehand leaves all properties as they are. -/
lemma FailsBeforehand.after_eq {q : Engine} {s : Text} {evaluate : Engine → Eval α}
    (h : q.FailsBeforehand s evaluate) {error : QueryError}
    (herror : (evaluate q).result = .error error) (p : Properties) :
    p.after (evaluate q).effects = p := by
  have heval : evaluate q = ⟨.error error, (q.unknownNotices s).map .notice⟩ :=
    h error herror q.registry fun _ => rfl
  rw [heval]
  exact Properties.after_of_writesOf_eq_nil (writesOf_notices _)

/-- Which names are unknown does not depend on what the others stand for. -/
lemma unknownNotices_withRegistry {q : Engine} {r : Registry} (h : q.registry.SameNames r)
    (s : Text) : (q.withRegistry r).unknownNotices s = q.unknownNotices s := by
  unfold unknownNotices
  congr 1
  funext o
  rw [h o.name]
  rfl

/-- A selector that does not pass the gate has no unknown names. -/
lemma unknownNotices_of_native {q : Engine} {s : Text} (h : ¬ q.hasPseudo s = true) :
    q.unknownNotices s = [] := by
  rw [unknownNotices, Template.occurrences_of_gate (Bool.eq_false_iff.2 h)]
  rfl

/-- **Evaluations that are searches fail beforehand**: with pseudo-selectors only the candidates may
be missing, and without them there is nothing but a native query. -/
theorem failsBeforehand_of_search {q : Engine} {d : Document} {root : NodeId} {s : Text}
    {evaluate : Engine → Eval α} {native : Except Native.InvalidSelector α}
    (look : Engine → List NodeId → Eval α)
    (hsearch : q.hasPseudo s = true →
      ∀ r, evaluate (q.withRegistry r) = (q.withRegistry r).search d root s (look (q.withRegistry r)))
    (hnative : ¬ q.hasPseudo s = true → ∀ r, evaluate (q.withRegistry r) = Eval.ofNative native)
    (hlook : ∀ ns, ∃ a, (look q ns).result = .ok a) : q.FailsBeforehand s evaluate := by
  intro error herror r hr
  by_cases hp : q.hasPseudo s = true
  · have hq : evaluate q = q.search d root s (look q) := hsearch hp q.registry
    rw [hq] at herror
    obtain ⟨e, htargets, rfl⟩ := exists_of_search_error hlook herror
    rw [hsearch hp r, ← unknownNotices_withRegistry hr]
    exact search_of_error (q := q.withRegistry r) htargets _
  · have hq : evaluate q = Eval.ofNative native := hnative hp q.registry
    rw [hnative hp r, unknownNotices_of_native hp, ← hq]
    rw [hq] at herror ⊢
    cases native with
    | error e => rw [← herror]; rfl
    | ok a => simp [Eval.ofNative, Eval.ok] at herror

/-- The query for the first node. -/
theorem findFirst_failsBeforehand (q : Engine) (d : Document) (root : NodeId) (s : Text) :
    q.FailsBeforehand s fun q => q.findFirst d root s := by
  refine failsBeforehand_of_search (fun q => Eval.findFirst (q.retains d s))
    (fun hp r => findFirst_eq_search hp) (fun hp r => findFirst_of_native hp) fun ns => ?_
  exact Eval.exists_result_findFirst fun n _ => q.exists_result_retains d s n

/-- The query for all nodes. -/
theorem findAll_failsBeforehand (q : Engine) (d : Document) (root : NodeId) (s : Text) :
    q.FailsBeforehand s fun q => q.findAll d root s := by
  refine failsBeforehand_of_search (fun q => Eval.keep (q.retains d s))
    (fun hp r => findAll_eq_search hp) (fun hp r => findAll_of_native hp) fun ns => ?_
  exact Eval.exists_result_keep fun n _ => q.exists_result_retains d s n

/-- **What goes on with an evaluation and cannot fail itself** fails when the evaluation does. -/
theorem FailsBeforehand.bind {β : Type} {q : Engine} {s : Text} {evaluate : Engine → Eval α}
    (h : q.FailsBeforehand s evaluate) {f : Engine → α → Eval β}
    (hf : ∀ a, ∃ b, (f q a).result = .ok b) : q.FailsBeforehand s fun q => evaluate q >>= f q := by
  intro error (herror : (evaluate q >>= f q).result = .error error) r hr
  cases hresult : (evaluate q).result with
  | error e =>
    rw [Eval.bind_of_error hresult] at herror
    obtain rfl : e = error := Except.error.inj herror
    have heval := h e hresult r hr
    exact (Eval.bind_of_error (congrArg Eval.result heval) _).trans
      (congrArg (Eval.mk (.error e)) (congrArg Eval.effects heval))
  | ok a =>
    obtain ⟨b, hb⟩ := hf a
    rw [Eval.bind_of_ok hresult, hb] at herror
    simp at herror

/-- Applying a rule, which fails only if the query for its selector does: neither of its assignments
has been made. -/
theorem settle_failsBeforehand (q : Engine) (d : Document) (n : NodeId) (r : Rule) :
    q.FailsBeforehand r.selector fun q => q.settle d n r :=
  (q.findFirst_failsBeforehand d n r.selector).bind fun found =>
    ⟨found.isSome, exists_result_settle n r found.isSome⟩

/-- The query for a single alternative. -/
theorem query_failsBeforehand (q : Engine) (d : Document) (root : NodeId) (s : Text) :
    q.FailsBeforehand s fun q => q.query d root [s] := by
  refine (q.findFirst_failsBeforehand d root s).bind fun found => ?_
  cases found with
  | none => exact ⟨none, rfl⟩
  | some n => exact ⟨some ⟨n, s⟩, rfl⟩

lemma contribution_failsBeforehand (q : Engine) (d : Document) (root : NodeId) (greedy : Bool)
    (s : Text) : q.FailsBeforehand s fun q => q.contribution d root greedy s := by
  cases greedy with
  | true => exact q.findAll_failsBeforehand d root s
  | false => exact (q.findFirst_failsBeforehand d root s).bind fun found => ⟨found.toList, rfl⟩

/-- The query for what a single alternative contributes. -/
theorem queryAll_failsBeforehand (q : Engine) (d : Document) (root : NodeId) (s : Text)
    (greedy : Bool) : q.FailsBeforehand s fun q => q.queryAll d root [s] greedy :=
  (q.contribution_failsBeforehand d root greedy s).bind fun ns =>
    ⟨(unseen [] ns).map (⟨·, s⟩) ++ [], rfl⟩

end Engine

end TreeQuery
