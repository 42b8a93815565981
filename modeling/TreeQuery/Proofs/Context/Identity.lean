import TreeQuery.Proofs.Document.Order
import TreeQuery.Proofs.Workspace.Failure
import TreeQuery.Proofs.Workspace.Provenance

set_option relaxedAutoImplicit false
set_option autoImplicit false

/-!
# Which nodes are the same

Handles are compared by the numbers of their nodes. Within one document this singles a node out.
The numbers begin anew in each document, however, and so the handles of nodes of different
documents are equal when the numbers are; the document nodes of any two documents are an example.

A context does not belong to a document. When it is used with several of them, its records follow
the comparison of handles: what is reported for a node is what was last recorded for any node with
its number, of whichever document.

## Main definitions

* `TreeQuery.Context.after`, `TreeQuery.Context.runAcross` — a context that serves commands for
  several documents.
* `TreeQuery.Context.RecordsFor` — a command for a document records a selector for a handle.
* `TreeQuery.Context.LastRecordsFor` — the last recording of a run that counts for a handle.

## Main results

* `TreeQuery.Context.runAcross_map` — the commands of one document are a run of its workspace.
* `TreeQuery.Context.provenance_runAcross_eq_some_iff` — provenance after a run across documents.
* `TreeQuery.Handle.identity_ofNumber` — handles are equal if their numbers are, and provenance
  does not tell equal handles apart.
-/

namespace TreeQuery

/-! ## Equal handles -/

namespace Handle

lemma beq_iff {x y : Handle} : (x == y) = true ↔ x.node = y.node := by
  show (x.node == y.node) = true ↔ x.node = y.node
  exact beq_iff_eq

/-- Within a document equal handles are of the same node. -/
lemma beq_iff_eq_of_document {x y : Handle} (h : x.document = y.document) :
    (x == y) = true ↔ x = y := by
  rw [beq_iff]
  constructor
  · intro hn
    cases x
    cases y
    simp_all
  · rintro rfl
    rfl

end Handle

/-! ## One context and several documents -/

namespace Context

/-- A document and the context at work on it, without any properties. -/
def workspace (c : Context) (d : Document) : Workspace := ⟨d, c, []⟩

/-- The context after a command for a document. -/
def after (c : Context) (step : Document × Command) : Context :=
  ((c.workspace step.1).execute step.2).1.context

/-- The context after commands for several documents. -/
def runAcross (c : Context) : List (Document × Command) → Context
  | [] => c
  | step :: steps => (c.after step).runAcross steps

/-- The properties of the nodes make no difference to the context. -/
lemma after_eq_context_execute (w : Workspace) (command : Command) :
    w.context.after (w.document, command) = (w.execute command).1.context :=
  have h : (w.context.workspace w.document).document = w.document := rfl
  (Workspace.execute_congr h rfl command).2.1

/-- The document of a workspace stays the same. -/
lemma document_execute (w : Workspace) (command : Command) :
    (w.execute command).1.document = w.document := by
  cases command with
  | configureJson s =>
    simp only [Workspace.execute]
    cases w.context.configureJson s <;> rfl
  | _ => rfl

/-- Commands for one document are a run of its workspace. -/
theorem runAcross_map (w : Workspace) (commands : List Command) :
    w.context.runAcross (commands.map (w.document, ·)) = (w.run commands).context := by
  induction commands generalizing w with
  | nil => rfl
  | cons command commands ih =>
    rw [List.map_cons, runAcross, after_eq_context_execute, Workspace.run, ← ih,
      document_execute]

/-! ## Recordings across documents -/

/-- The selector `s` is recorded for the handle `x` when the context serves a command for a
document. -/
def RecordsFor (c : Context) (step : Document × Command) (x : Handle) (s : Text) : Prop :=
  x.document = step.1 ∧ step.2.Records (c.workspace step.1) x.node s

/-- No command records anything for a handle equal to `y`, and none clears the records. -/
def Untouched (y : Handle) : Context → List (Document × Command) → Prop
  | _, [] => True
  | c, step :: steps =>
    (step.2 ≠ .clearProvenance ∧ ∀ x s, c.RecordsFor step x s → (x == y) = false) ∧
      Untouched y (c.after step) steps

/-- Some command records `s` for a handle `x` equal to `y`, and after it there is neither a
recording for a handle equal to `y` nor a clearing. -/
def LastRecordsFor (c : Context) (steps : List (Document × Command)) (y : Handle) (s : Text) :
    Prop :=
  ∃ before step later x, steps = before ++ step :: later ∧
    (c.runAcross before).RecordsFor step x s ∧ (x == y) = true ∧
    Untouched y ((c.runAcross before).after step) later

variable {c : Context} {step : Document × Command} {steps : List (Document × Command)}
  {y : Handle} {s : Text}

lemma exists_recordsFor_iff :
    (∃ x, c.RecordsFor step x s ∧ (x == y) = true) ↔
      step.2.Records (c.workspace step.1) y.node s := by
  constructor
  · rintro ⟨x, ⟨-, hx⟩, hxy⟩
    rwa [← Handle.beq_iff.1 hxy]
  · intro h
    exact ⟨⟨step.1, y.node⟩, ⟨rfl, h⟩, Handle.beq_iff.2 rfl⟩

/-- One command for a document: the selector reported for `y` is the one that the command has
recorded for a handle equal to `y`, if there is one, and else the one reported before. -/
theorem provenance_after_eq_some_iff :
    (c.after step).provenance y = some s ↔
      (∃ x, c.RecordsFor step x s ∧ (x == y) = true) ∨
        (step.2 ≠ .clearProvenance ∧ ∀ x s', c.RecordsFor step x s' → (x == y) = false) ∧
          c.provenance y = some s := by
  have hnone : (∀ x s', c.RecordsFor step x s' → (x == y) = false) ↔
      ∀ s', ¬ step.2.Records (c.workspace step.1) y.node s' := by
    simp only [← exists_recordsFor_iff, not_exists, not_and, Bool.not_eq_true]
    exact forall_comm
  rw [exists_recordsFor_iff, hnone]
  exact Workspace.provenance_execute_eq_some_iff (w := c.workspace step.1) (n := y.node)

lemma not_lastRecordsFor_nil : ¬ c.LastRecordsFor [] y s := by
  rintro ⟨before, step, later, x, h, -⟩
  simp at h

/-- The last recording of a run is made by its first command, or by one of the others. -/
lemma lastRecordsFor_cons :
    c.LastRecordsFor (step :: steps) y s ↔
      (∃ x, c.RecordsFor step x s ∧ (x == y) = true) ∧ Untouched y (c.after step) steps ∨
        (c.after step).LastRecordsFor steps y s := by
  constructor
  · rintro ⟨before, step', later, x, h, hx, hxy, hlater⟩
    cases before with
    | nil =>
      obtain ⟨rfl, rfl⟩ := List.cons.inj h
      exact .inl ⟨⟨x, hx, hxy⟩, hlater⟩
    | cons b before =>
      obtain ⟨rfl, rfl⟩ := List.cons.inj h
      exact .inr ⟨before, step', later, x, rfl, hx, hxy, hlater⟩
  · rintro (⟨⟨x, hx, hxy⟩, hlater⟩ | ⟨before, step', later, x, rfl, hx, hxy, hlater⟩)
    · exact ⟨[], step, steps, x, rfl, hx, hxy, hlater⟩
    · exact ⟨step :: before, step', later, x, rfl, hx, hxy, hlater⟩

/-- **A run across documents**: the selector reported for `y` is the one that was last recorded
for a handle equal to `y` since the records were last cleared, or the one reported before the run
if no command of the run has recorded anything for such a handle or cleared the records.

**Proof sketch.** By induction on the run, each step being `provenance_after_eq_some_iff`. -/
theorem provenance_runAcross_eq_some_iff :
    (c.runAcross steps).provenance y = some s ↔
      c.LastRecordsFor steps y s ∨ Untouched y c steps ∧ c.provenance y = some s := by
  induction steps generalizing c with
  | nil => simp [runAcross, not_lastRecordsFor_nil, Untouched]
  | cons step steps ih =>
    rw [runAcross, ih, provenance_after_eq_some_iff, lastRecordsFor_cons, Untouched]
    constructor
    · rintro (hlast | ⟨hrest, hrecords | ⟨hstep, hbefore⟩⟩)
      · exact .inl (.inr hlast)
      · exact .inl (.inl ⟨hrecords, hrest⟩)
      · exact .inr ⟨⟨hstep, hrest⟩, hbefore⟩
    · rintro ((⟨hrecords, hrest⟩ | hlast) | ⟨⟨hstep, hrest⟩, hbefore⟩)
      · exact .inr ⟨hrest, .inl hrecords⟩
      · exact .inl hlast
      · exact .inr ⟨hrest, .inr ⟨hstep, hbefore⟩⟩

end Context

/-! ## Identity is the number of the node -/

namespace Handle

/-- **Handles are equal exactly if the numbers of their nodes are**, whichever documents they belong
to. Within one document they are therefore equal exactly if they are of the same node, but the
document nodes of any two documents are equal as well. Equal handles are reported the same
provenance by every context, and after a run of commands for several documents this is the
selector last recorded for a node with the number of `y`, be it of the document of `y` or of
another one.

**Proof sketch.** A context keeps its records by the number of the node, which is all that the
comparison looks at; the rest is `provenance_runAcross_eq_some_iff`. -/
theorem identity_ofNumber (x y : Handle) :
    ((x == y) = true ↔ x.node = y.node) ∧
      (x.document = y.document → ((x == y) = true ↔ x = y)) ∧
      (x.document.root == y.document.root) = true ∧
      ∀ c : Context, ((x == y) = true → c.provenance x = c.provenance y) ∧
        ∀ steps s, (c.runAcross steps).provenance y = some s ↔
          c.LastRecordsFor steps y s ∨ Context.Untouched y c steps ∧ c.provenance y = some s := by
  refine ⟨beq_iff, beq_iff_eq_of_document, beq_iff.2 rfl, fun c => ⟨fun h => ?_, fun steps s => ?_⟩⟩
  · rw [Context.provenance, beq_iff.1 h, ← Context.provenance]
  · exact Context.provenance_runAcross_eq_some_iff

/-- A node of a document with recorded provenance, another node of this document, and a node of
another document. -/
theorem identity_ofNumber_threeNodes :
    let a : Document := ⟨#[⟨0, .element ['a'] []⟩], by decide⟩
    let b : Document := ⟨#[⟨0, .element ['b'] []⟩], by decide⟩
    let x : Handle := ⟨a, 1⟩
    let y : Handle := ⟨b, 1⟩
    let c := (Context.new false).record x ['a']
    (x.document = a.root.document ∧ ((x == a.root) = true ↔ x = a.root)) ∧
      ((x == y) = true ∧ c.provenance x = c.provenance y) ∧
      Context.LastRecordsFor (.new false) [(a, .wrap (some 1) (some ['a']))] y ['a'] := by
  intro a b x y c
  obtain ⟨-, hwithin, -⟩ := identity_ofNumber x a.root
  obtain ⟨-, -, -, hprovenance⟩ := identity_ofNumber x y
  refine ⟨⟨rfl, hwithin rfl⟩, ⟨rfl, (hprovenance c).1 rfl⟩, ?_⟩
  refine (((hprovenance (.new false)).2 _ _).1 rfl).resolve_right ?_
  rintro ⟨-, hbefore⟩
  cases hbefore

/-- Two documents of one element each, the handles of which are equal: wrapping the first element
with a selector makes a context report this selector for the second one. -/
theorem identity_acrossDocuments :
    let a : Document := ⟨#[⟨0, .element ['a'] []⟩], by decide⟩
    let b : Document := ⟨#[⟨0, .element ['b'] []⟩], by decide⟩
    let x : Handle := ⟨a, 1⟩
    let y : Handle := ⟨b, 1⟩
    let c := Context.new false
    Document.ofMarkup "<a/>".toList = .ok a ∧ Document.ofMarkup "<b/>".toList = .ok b ∧
      x.tag = ['a'] ∧ y.tag = ['b'] ∧ (x == y) = true ∧
      (c.runAcross [(a, .wrap (some 1) none), (b, .wrap (some 1) none)]).provenance y = none ∧
      (c.runAcross [(a, .wrap (some 1) (some ['a'])), (b, .wrap (some 1) none)]).provenance y =
        some ['a'] := by
  intro a b x y c
  have ha : Document.ofMarkup "<a/>".toList = .ok a := by decide +kernel
  have hb : Document.ofMarkup "<b/>".toList = .ok b := by decide +kernel
  exact ⟨ha, hb, rfl, rfl, rfl, rfl, rfl⟩

end Handle

end TreeQuery
