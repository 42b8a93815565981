import TreeQuery.Proofs.Context.Closest
import TreeQuery.Proofs.Engine.Failure
import TreeQuery.Proofs.Engine.Repetition
import TreeQuery.Proofs.Workspace.Provenance

set_option relaxedAutoImplicit false
set_option autoImplicit false

/-!
# Commands that fail

A command that fails leaves the context of a workspace as it was: template, registry, the recording
and all records. Unless it asks for several alternatives it leaves the properties as they were, too,
so that nothing has changed at all. Of several alternatives the first ones may have been evaluated
and may have written properties before another one fails.

So commands that fail can be left out of a run.

## Main definitions

* `TreeQuery.Workspace.Fails` — a command fails in a workspace.
* `TreeQuery.Command.AsksOnce` — a command does not ask for several alternatives.
* `TreeQuery.Workspace.withoutFailures` — the commands of a run that do not fail.

## Main results

* `TreeQuery.Workspace.context_execute_of_fails`, `TreeQuery.Workspace.execute_of_fails` — what a
  command leaves that fails.
* `TreeQuery.Workspace.context_run_withoutFailures`, `TreeQuery.Workspace.run_withoutFailures` —
  runs without the commands that fail.
* `TreeQuery.Workspace.failures_areAtomic` — commands and operations that fail.
-/

namespace TreeQuery

/-- The command asks for no more than one alternative. Commands other than queries do not ask for
alternatives, or they join them to one selector. -/
def Command.AsksOnce : Command → Prop
  | .query _ alternatives => alternatives.length ≤ 1
  | .queryAll _ alternatives _ => alternatives.length ≤ 1
  | _ => True

/-- The operation asks for the selector `s` alone, or applies a rule with this selector. -/
inductive Operation.AsksFor (s : Text) : Operation → Prop
  | findFirst (root : NodeId) : AsksFor s (.findFirst root s)
  | findAll (root : NodeId) : AsksFor s (.findAll root s)
  | settle (n : NodeId) {r : Rule} (h : r.selector = s) : AsksFor s (.settle n r)

namespace Workspace

/-- The command fails in the workspace. -/
def Fails (w : Workspace) (c : Command) : Prop := ∃ e, (w.execute c).2.1 = .failed e

instance (w : Workspace) (c : Command) : Decidable (w.Fails c) :=
  match h : (w.execute c).2.1 with
  | .failed e => .isTrue ⟨e, h⟩
  | .done | .node _ | .nodes _ | .truth _ => .isFalse fun ⟨e, he⟩ => by simp [h] at he

/-! ## One command -/

variable {w : Workspace} {c : Command}

/-- An answer is a failure only if the evaluation has failed. -/
lemma exists_error_of_answer {α : Type} {encode : α → Answer} (hencode : ∀ a e, encode a ≠ .failed e)
    {x : Eval α} {e : Error} (h : answer encode x = .failed e) : ∃ error, x.result = .error error := by
  unfold answer at h
  cases hx : x.result with
  | ok a =>
    rw [hx] at h
    exact absurd h (hencode a e)
  | error error => exact ⟨error, rfl⟩

/-- A query for the first match fails if the query of the engine does. -/
lemma exists_error_of_query {root : NodeId} {alternatives : Alternatives}
    (h : w.Fails (.query root alternatives)) :
    ∃ error, (w.context.engine.query w.document root alternatives).result = .error error := by
  obtain ⟨e, he⟩ := h
  obtain ⟨error, herror⟩ := exists_error_of_answer (by simp) he
  exact ⟨error, Eval.map_eq_error_iff.1 ((Eval.result_map _ _).symm.trans herror)⟩

/-- A query for all matches fails if the query of the engine does. -/
lemma exists_error_of_queryAll {root : NodeId} {alternatives : Alternatives} {greedy : Bool}
    (h : w.Fails (.queryAll root alternatives greedy)) :
    ∃ error, (w.context.engine.queryAll w.document root alternatives greedy).result =
      .error error := by
  obtain ⟨e, he⟩ := h
  obtain ⟨error, herror⟩ := exists_error_of_answer (by simp) he
  exact ⟨error, Eval.map_eq_error_iff.1 ((Eval.result_map _ _).symm.trans herror)⟩

/-- A query upwards fails if the document rejects the joined alternatives. -/
lemma exists_error_of_closest {root : NodeId} {alternatives : Alternatives}
    (h : w.Fails (.closest root alternatives)) :
    ∃ e, w.document.closest root alternatives.joined = .error e := by
  obtain ⟨e, he⟩ := h
  obtain ⟨error, herror⟩ := exists_error_of_answer (by simp) he
  cases alternatives with
  | nil => exact ⟨_, rfl⟩
  | cons a alternatives =>
    rw [Context.result_closest _ _ (List.cons_ne_nil a alternatives)] at herror
    cases hfound : w.document.closest root (Alternatives.joined (a :: alternatives)) with
    | error e => exact ⟨e, rfl⟩
    | ok n =>
      simp [handle, hfound, Except.mapError, Except.map] at herror

/-- A data text that is no patch changes nothing. -/
lemma execute_configureJson_of_fails {s : Text} (h : w.Fails (.configureJson s)) :
    (w.execute (.configureJson s)).1 = w := by
  obtain ⟨e, he⟩ := h
  simp only [execute] at he ⊢
  cases hs : w.context.configureJson s with
  | ok c => simp [hs, withContext] at he
  | error e => rfl

/-- **A command that fails leaves the context as it was**, and the document. -/
theorem context_execute_of_fails (h : w.Fails c) :
    (w.execute c).1.context = w.context ∧ (w.execute c).1.document = w.document := by
  cases c with
  | query root alternatives =>
    obtain ⟨error, herror⟩ := exists_error_of_query h
    have hcontext : (w.context.query (w.handle root) alternatives).context = w.context :=
      Context.context_query_of_error herror
    exact ⟨hcontext, rfl⟩
  | queryAll root alternatives greedy =>
    obtain ⟨error, herror⟩ := exists_error_of_queryAll h
    have hcontext : (w.context.queryAll (w.handle root) alternatives greedy).context = w.context :=
      Context.context_queryAll_of_error herror
    exact ⟨hcontext, rfl⟩
  | closest root alternatives =>
    obtain ⟨error, herror⟩ := exists_error_of_closest h
    have hcontext : (w.context.closest (w.handle root) alternatives).context = w.context :=
      Context.context_closest_of_error herror
    exact ⟨hcontext, rfl⟩
  | configureJson s =>
    rw [execute_configureJson_of_fails h]
    exact ⟨rfl, rfl⟩
  | settle n r => exact ⟨rfl, rfl⟩
  | _ =>
    -- The other commands do not fail.
    obtain ⟨e, he⟩ := h
    cases he

lemma eq_nil_or_singleton {alternatives : Alternatives} (h : alternatives.length ≤ 1) :
    alternatives = [] ∨ ∃ s, alternatives = [s] := by
  rcases Nat.le_one_iff_eq_zero_or_eq_one.1 h with h | h
  · exact .inl (List.length_eq_zero_iff.1 h)
  · exact .inr (List.length_eq_one_iff.1 h)

lemma eq_of_parts {w w' : Workspace} (hdocument : w'.document = w.document)
    (hcontext : w'.context = w.context) (hproperties : w'.properties = w.properties) : w' = w := by
  cases w'
  subst hdocument hcontext hproperties
  rfl

/-- **A command that fails and asks once changes nothing.** -/
theorem execute_of_fails (h : w.Fails c) (honce : c.AsksOnce) : (w.execute c).1 = w := by
  obtain ⟨hcontext, hdocument⟩ := context_execute_of_fails h
  have hproperties : (w.execute c).1.properties = w.properties := by
    cases c with
    | query root alternatives =>
      obtain ⟨error, herror⟩ := exists_error_of_query h
      rcases eq_nil_or_singleton honce with rfl | ⟨s, rfl⟩
      · simp [Engine.query, Eval.pure_eq, Eval.ok] at herror
      · have heval := (w.context.engine.query_failsBeforehand w.document root s).after_eq herror
        exact (congrArg w.properties.after (Eval.effects_map _ _)).trans (heval w.properties)
    | queryAll root alternatives greedy =>
      obtain ⟨error, herror⟩ := exists_error_of_queryAll h
      rcases eq_nil_or_singleton honce with rfl | ⟨s, rfl⟩
      · simp [Engine.queryAll, Engine.collect, Eval.pure_eq, Eval.ok] at herror
      · have heval := (w.context.engine.queryAll_failsBeforehand w.document root s greedy).after_eq
          herror
        exact (congrArg w.properties.after (Eval.effects_map _ _)).trans (heval w.properties)
    | closest root alternatives =>
      exact congrArg w.properties.after
        (w.context.effects_closest (w.handle root) alternatives)
    | configureJson s => rw [execute_configureJson_of_fails h]
    | settle n r =>
      obtain ⟨e, he⟩ := h
      obtain ⟨error, herror⟩ := exists_error_of_answer (by simp) he
      exact (w.context.engine.settle_failsBeforehand w.document n r).after_eq herror w.properties
    | _ =>
      obtain ⟨e, he⟩ := h
      cases he
  exact eq_of_parts hdocument hcontext hproperties

/-! ## Runs -/

/-- What a command shows, and the context and the document that it leaves, have nothing to do with
the properties. -/
lemma execute_congr {w w' : Workspace} (hdocument : w.document = w'.document)
    (hcontext : w.context = w'.context) (c : Command) :
    (w.execute c).1.document = (w'.execute c).1.document ∧
      (w.execute c).1.context = (w'.execute c).1.context ∧ (w.execute c).2 = (w'.execute c).2 := by
  obtain ⟨d, context, p⟩ := w
  obtain ⟨d', context', p'⟩ := w'
  obtain rfl : d = d' := hdocument
  obtain rfl : context = context' := hcontext
  cases c with
  | configureJson s =>
    simp only [execute]
    cases context.configureJson s <;> exact ⟨rfl, rfl, rfl⟩
  | _ => exact ⟨rfl, rfl, rfl⟩

/-- The commands of a run that do not fail. -/
def withoutFailures (w : Workspace) : List Command → List Command
  | [] => []
  | c :: commands =>
    if w.Fails c then (w.execute c).1.withoutFailures commands
    else c :: (w.execute c).1.withoutFailures commands

/-- **Commands that fail do not matter for the context**: a run without them leaves the same one. -/
theorem context_run_withoutFailures (w : Workspace) (commands : List Command) :
    (w.run (w.withoutFailures commands)).context = (w.run commands).context := by
  -- The properties of the two runs differ if alternatives have been evaluated in front of one that
  -- fails; but the commands do not see them.
  suffices h : ∀ w' : Workspace, w'.document = w.document → w'.context = w.context →
      (w'.run (w.withoutFailures commands)).context = (w.run commands).context from h w rfl rfl
  induction commands generalizing w with
  | nil =>
    intro w' hdocument hcontext
    exact hcontext
  | cons c commands ih =>
    intro w' hdocument hcontext
    rw [withoutFailures]
    split
    · rename_i hfails
      obtain ⟨hcontext', hdocument'⟩ := context_execute_of_fails hfails
      exact ih _ w' (hdocument.trans hdocument'.symm) (hcontext.trans hcontext'.symm)
    · obtain ⟨hdocument', hcontext', -⟩ := execute_congr hdocument hcontext c
      exact ih _ _ hdocument' hcontext'

/-- **Commands that fail can be left out of a run** if each command asks once. -/
theorem run_withoutFailures (w : Workspace) {commands : List Command}
    (h : ∀ c ∈ commands, c.AsksOnce) : w.run (w.withoutFailures commands) = w.run commands := by
  induction commands generalizing w with
  | nil => rfl
  | cons c commands ih =>
    obtain ⟨hc, hcommands⟩ := List.forall_mem_cons.1 h
    rw [withoutFailures]
    split
    · rename_i hfails
      have hexecute := execute_of_fails hfails hc
      calc w.run ((w.execute c).1.withoutFailures commands)
          = w.run (w.withoutFailures commands) := by rw [hexecute]
        _ = w.run commands := ih w hcommands
        _ = (w.execute c).1.run commands := by rw [hexecute]
    · exact ih _ hcommands

/-! ## Operations -/

/-- **An operation for one selector fails before any pseudo-selector is evaluated.** -/
lemma failsBeforehand_of_asksFor {o : Operation} {s : Text} (h : o.AsksFor s) (q : Engine)
    (d : Document) : q.FailsBeforehand s fun q => o.evaluate q d := by
  cases h with
  | findFirst root => exact q.findFirst_failsBeforehand d root s
  | findAll root => exact q.findAll_failsBeforehand d root s
  | settle n h =>
    subst h
    exact q.settle_failsBeforehand d n _

/-- **Failures are atomic**, in every workspace. A command that fails leaves the document and the
context as they were, that is template, registry, recording and records; if it does not ask for
several alternatives it leaves the properties as well. An operation of the engine for one selector
or with one rule that fails has changed no property either: it has failed before any pseudo-selector
was evaluated, and with other pseudo-selectors under the same names it would be the same evaluation.

**Proof sketch.** A pseudo-selector that fails at a candidate excludes the candidate, so that only
looking up the candidates can fail (`Engine.failsBeforehand_of_search`). A query records its matches
when all alternatives have been evaluated (`context_execute_of_fails`). -/
theorem failures_areAtomic (w : Workspace) :
    (∀ c, w.Fails c → (w.execute c).1.document = w.document ∧
      (w.execute c).1.context = w.context ∧ (c.AsksOnce → (w.execute c).1 = w)) ∧
    ∀ o s, Operation.AsksFor s o →
      (∀ error, (w.ask o).result = .error error → (w.ask o).workspace = w) ∧
        w.context.engine.FailsBeforehand s fun q => o.evaluate q w.document := by
  constructor
  · intro c h
    obtain ⟨hcontext, hdocument⟩ := context_execute_of_fails h
    exact ⟨hdocument, hcontext, execute_of_fails h⟩
  · intro o s ho
    have hfails := failsBeforehand_of_asksFor ho w.context.engine w.document
    exact ⟨fun error h => eq_of_parts rfl rfl (hfails.after_eq h w.properties), hfails⟩

set_option maxRecDepth 20000 in
/-- A second alternative that is rejected when the first one has found something, a rule whose
selector has two occurrences, one of which carries another rule, and a data text that ends too
early. -/
theorem failures_areAtomic_rejected :
    let d : Document := ⟨#[⟨0, .element ['r'] []⟩, ⟨1, .element ['a'] []⟩], by decide⟩
    let w : Workspace := ⟨d, ⟨⟨['!'], [], ['~']⟩, .standard, true, [(2, ['a'])]⟩, []⟩
    let rejected : Text := ">!self(~*~)!smuggleIf(~[\">\"]~)".toList
    let error : QueryError := .invalidSelector ⟨['>'], .unreadable ['>']⟩
    let r : Rule := ⟨rejected, some ⟨['p'], .int 2⟩, some ⟨['p'], .int 3⟩⟩
    (w.Fails (.queryAll 0 [['*'], ['>']] true) ∧
        (w.execute (.queryAll 0 [['*'], ['>']] true)).1.context = w.context) ∧
      ((Operation.settle 1 r).AsksFor rejected ∧ (w.ask (.settle 1 r)).result = .error error ∧
        (w.ask (.settle 1 r)).workspace = w) ∧
      (Command.configureJson ['[']).AsksOnce ∧ w.Fails (.configureJson ['[']) ∧
        (w.execute (.configureJson ['['])).1 = w := by
  intro d w rejected error r
  have hquery : w.Fails (.queryAll 0 [['*'], ['>']] true) := by
    refine ⟨.query error, ?_⟩
    unfold w error
    cbv
  have hjson : w.Fails (.configureJson ['[']) := by
    refine ⟨.configuration .malformed, ?_⟩
    unfold w
    cbv
  have hgate : w.context.engine.hasPseudo rejected = true := by decide +kernel
  have hbase : w.context.template.base rejected = ['>'] := by
    unfold w rejected
    cbv
  have htargets : d.targets 1 (w.context.template.base rejected) =
      .error ⟨['>'], .unreadable ['>']⟩ := by
    rw [hbase]
    decide +kernel
  have hfirst : (w.context.engine.findFirst d 1 rejected).result = .error error := by
    rw [Engine.findFirst_eq_search hgate, Engine.search_of_error htargets]
  have hsettle : (w.ask (.settle 1 r)).result = .error error :=
    congrArg Eval.result (Engine.settle_of_error (r := r) hfirst)
  obtain ⟨hcommands, hoperations⟩ := failures_areAtomic w
  have hasks : (Operation.settle 1 r).AsksFor rejected := .settle 1 rfl
  exact ⟨⟨hquery, (hcommands _ hquery).2.1⟩, ⟨hasks, hsettle, (hoperations _ _ hasks).1 _ hsettle⟩,
    trivial, hjson, (hcommands _ hjson).2.2 trivial⟩

end Workspace

end TreeQuery
