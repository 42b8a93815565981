import TreeQuery.Proofs.Engine.Live
import TreeQuery.Workspace

set_option relaxedAutoImplicit false
set_option autoImplicit false

/-!
# Asking again

What an operation answers, which notices it gives and which properties it writes, and in which
order, depends on the document, the template, the registry and its arguments. It does not depend
on the properties that nodes had before, nor on what was recorded about them. Asking the same once
more therefore gives the same answer and makes the same writes; and since the last write to a
property is the one that stays, the store is the same after the second time as after the first.

This is said of the operations of an engine, which may as well be performed on the properties
themselves, every assignment being made there and then, and of the commands of a workspace that go
through its context and record provenance.

## Main definitions

* `TreeQuery.Operation` — what can be asked of an engine about a document.
* `TreeQuery.Operation.command` — the same question as a command of a workspace.
* `TreeQuery.Workspace.ask` — asking an operation in a workspace, with what it shows and leaves.
* `TreeQuery.Workspace.perform` — the same, the properties being changed on the way.

## Main results

* `TreeQuery.Workspace.perform_eq_ask` — properties that are changed on the way change nothing else.
* `TreeQuery.Operation.independent_command` — what a command depends on.
* `TreeQuery.Operation.ask_independent_and_idempotent` — no property influences an operation, and
  asking twice is like asking once.
-/

namespace TreeQuery

/-- What can be asked of an engine about a document: the first node or all nodes that one
selector finds, the first node or all nodes that alternatives find, and the application of a
rule. -/
inductive Operation
  | findFirst (root : NodeId) (s : Text)
  | findAll (root : NodeId) (s : Text)
  | query (root : NodeId) (alternatives : Alternatives)
  | queryAll (root : NodeId) (alternatives : Alternatives) (greedy : Bool)
  | settle (node : NodeId) (r : Rule)

namespace Operation

/-- What an operation answers. -/
def Result : Operation → Type
  | findFirst _ _ => Option NodeId
  | findAll _ _ => List NodeId
  | query _ _ => Option Match
  | queryAll _ _ _ => List Match
  | settle _ _ => Bool

/-- An operation as an evaluation. -/
def evaluate (q : Engine) (d : Document) : (o : Operation) → Eval o.Result
  | findFirst root s => q.findFirst d root s
  | findAll root s => q.findAll d root s
  | query root alternatives => q.query d root alternatives
  | queryAll root alternatives greedy => q.queryAll d root alternatives greedy
  | settle n r => q.settle d n r

/-- An operation as an action on a store. -/
def act (q : LiveEngine) (d : Document) : (o : Operation) → Action o.Result
  | findFirst root s => q.findFirst d root s
  | findAll root s => q.findAll d root s
  | query root alternatives => q.query d root alternatives
  | queryAll root alternatives greedy => q.collect d root greedy [] alternatives
  | settle n r => q.settle d n r

/-- The same question as a command of a workspace. A single selector is the only alternative. -/
def command : Operation → Command
  | findFirst root s => .query root [s]
  | findAll root s => .queryAll root [s] true
  | query root alternatives => .query root alternatives
  | queryAll root alternatives greedy => .queryAll root alternatives greedy
  | settle n r => .settle n r

end Operation

/-- What asking an operation shows, and the workspace that it leaves. -/
structure Outcome (o : Operation) where
  /-- The answer or the error. -/
  result : Except QueryError o.Result
  /-- The notices in order. -/
  notices : List Notice
  /-- The writes to properties in order. -/
  writes : List Write
  workspace : Workspace

/-- Asks an operation in a workspace. The engine has the template and the registry of the context;
the context stays as it is. -/
def Workspace.ask (w : Workspace) (o : Operation) : Outcome o :=
  let x := o.evaluate w.context.engine w.document
  { result := x.result
    notices := noticesOf x.effects
    writes := writesOf x.effects
    workspace := { w with properties := w.properties.after x.effects } }

/-- Performs an operation on the properties of a workspace, which are changed on the way. -/
def Workspace.perform (w : Workspace) (q : LiveEngine) (o : Operation) : Outcome o :=
  let (result, store) := (o.act q w.document).perform ⟨w.properties, [], []⟩
  { result := result
    notices := store.notices
    writes := store.writes
    workspace := { w with properties := store.properties } }

/-! ## Properties that are changed on the way -/

/-- An operation performs what it collects, if the pseudo-selectors do. -/
lemma Operation.act_eq_replay {q' : LiveEngine} {q : Engine} (h : q'.Realizes q) (d : Document)
    (o : Operation) : o.act q' d = (o.evaluate q d).replay := by
  cases o with
  | findFirst root s => exact LiveEngine.findFirst_eq_replay h d root s
  | findAll root s => exact LiveEngine.findAll_eq_replay h d root s
  | query root alternatives => exact LiveEngine.query_eq_replay h d root alternatives
  | queryAll root alternatives greedy =>
    exact LiveEngine.collect_eq_replay h d root greedy [] alternatives
  | settle n r => exact LiveEngine.settle_eq_replay h d n r

/-- **Properties that are changed on the way** make no difference: the answer, the notices, the
writes and the properties in the end are the same as if all writes were made after the answer has
been found. -/
theorem Workspace.perform_eq_ask (w : Workspace) {q : LiveEngine}
    (h : q.Realizes w.context.engine) (o : Operation) : w.perform q o = w.ask o := by
  unfold perform ask
  rw [Operation.act_eq_replay h, Eval.perform_replay, Store.after_eq]
  rfl

/-! ## Commands -/

namespace Context

lemma wrap_eq (c : Context) (h : Option Handle) (s : Option Text) :
    ∃ records, c.wrap h s = { c with records := records } := by
  unfold wrap
  split
  · exact ⟨_, rfl⟩
  · exact ⟨c.records, rfl⟩

/-- Recording what was found changes the records of a context and nothing else. -/
lemma wrapAll_eq (c : Context) (root : Handle) (ms : List Match) :
    ∃ records, c.wrapAll root ms = { c with records := records } := by
  induction ms generalizing c with
  | nil => exact ⟨c.records, rfl⟩
  | cons m ms ih =>
    obtain ⟨records, h⟩ := ih (c.wrap (some (root.sibling m.node)) (c.recorded m.alternative))
    obtain ⟨records', h'⟩ := c.wrap_eq (some (root.sibling m.node)) (c.recorded m.alternative)
    exact ⟨records, h.trans (by rw [h'])⟩

lemma context_query (c : Context) (root : Handle) (alternatives : Alternatives) :
    ∃ records, (c.query root alternatives).context = { c with records := records } := by
  unfold query
  dsimp only
  split
  · exact c.wrapAll_eq root _
  · exact ⟨c.records, rfl⟩

lemma context_queryAll (c : Context) (root : Handle) (alternatives : Alternatives)
    (greedy : Bool) :
    ∃ records, (c.queryAll root alternatives greedy).context = { c with records := records } := by
  unfold queryAll
  dsimp only
  split
  · exact c.wrapAll_eq root _
  · exact ⟨c.records, rfl⟩

lemma context_closest (c : Context) (root : Handle) (alternatives : Alternatives) :
    ∃ records, (c.closest root alternatives).context = { c with records := records } := by
  unfold closest
  split
  · exact ⟨c.records, rfl⟩
  · dsimp only
    split
    · exact c.wrap_eq _ _
    · exact ⟨c.records, rfl⟩

end Context

section Commands

variable (d : Document) (t : Template) (registry : Registry) (recording : Bool)

/-- A workspace over the document with the template and the registry, for any properties and
records. -/
private abbrev workspaceOn (p : Properties) (records : Table NodeId Text) : Workspace :=
  ⟨d, ⟨t, registry, recording, records⟩, p⟩

/-- Executing the command has effects, an answer and notices that neither the properties nor the
records have a part in. -/
def Command.Independent (c : Command) : Prop :=
  ∃ (es : List Effect) (answer : Answer), ∀ (p : Properties) (records : Table NodeId Text),
    ∃ records', (workspaceOn d t registry recording p records).execute c =
      (workspaceOn d t registry recording (p.after es) records', answer, noticesOf es)

/-- A command that concludes with an evaluation, which is the same one for all properties and
records. -/
lemma Command.independent_of_conclude {α : Type} {c : Command} (encode : α → Answer) (x : Eval α)
    (h : ∀ (p : Properties) (records : Table NodeId Text), ∃ records',
      (workspaceOn d t registry recording p records).execute c =
        (workspaceOn d t registry recording p records).conclude ⟨t, registry, recording, records'⟩
          encode x) :
    c.Independent d t registry recording :=
  ⟨x.effects, Workspace.answer encode x, h⟩

lemma Command.independent_query (root : NodeId) (alternatives : Alternatives) :
    (Command.query root alternatives).Independent d t registry recording := by
  refine independent_of_conclude d t registry recording (fun h => .node (h.map (·.node)))
    (Context.query ⟨t, registry, recording, []⟩ ⟨d, root⟩ alternatives).eval fun p records => ?_
  obtain ⟨records', h⟩ :=
    Context.context_query ⟨t, registry, recording, records⟩ ⟨d, root⟩ alternatives
  refine ⟨records', ?_⟩
  rw [← h]
  rfl

lemma Command.independent_queryAll (root : NodeId) (alternatives : Alternatives) (greedy : Bool) :
    (Command.queryAll root alternatives greedy).Independent d t registry recording := by
  refine independent_of_conclude d t registry recording (fun hs => .nodes (hs.map (·.node)))
    (Context.queryAll ⟨t, registry, recording, []⟩ ⟨d, root⟩ alternatives greedy).eval
    fun p records => ?_
  obtain ⟨records', h⟩ :=
    Context.context_queryAll ⟨t, registry, recording, records⟩ ⟨d, root⟩ alternatives greedy
  refine ⟨records', ?_⟩
  rw [← h]
  rfl

lemma Command.independent_settle (n : NodeId) (r : Rule) :
    (Command.settle n r).Independent d t registry recording :=
  independent_of_conclude d t registry recording .truth ((Engine.mk t registry).settle d n r)
    fun _ records => ⟨records, rfl⟩

/-- **What a command depends on.** The effects, the answer and the notices of a command are
settled by document, template and registry; what the properties and records were before shows in
nothing but what they are afterwards. -/
theorem Operation.independent_command (o : Operation) :
    o.command.Independent d t registry recording := by
  cases o with
  | findFirst root s => exact Command.independent_query d t registry recording root [s]
  | findAll root s => exact Command.independent_queryAll d t registry recording root [s] true
  | query root alternatives =>
    exact Command.independent_query d t registry recording root alternatives
  | queryAll root alternatives greedy =>
    exact Command.independent_queryAll d t registry recording root alternatives greedy
  | settle n r => exact Command.independent_settle d t registry recording n r

end Commands

/-! ## Two runs -/

/-- **No property influences an operation, and asking twice is like asking once.** For every
document and template, with the standard registry, and for any two stores of properties and
tables of records: an operation that is performed on the properties, nested queries included, gives
what it is asked for and leaves the writes that asking it makes; it gives the same result, the same
notices and the same writes; asked a second time it gives the same result and leaves the same
properties as the first time. So it is for the same question as a command of a workspace.

**Proof sketch.** What is performed on the properties is one evaluation that is replayed
(`Workspace.perform_eq_ask`), by induction on the length of selectors, and this evaluation reads
neither the properties nor the records. Of its writes the last one to each property stays, so that
the same writes once more change nothing (`Properties.after_after`). -/
theorem Operation.ask_independent_and_idempotent (d : Document) (t : Template) (recording : Bool)
    (o : Operation) (p p' : Properties) (records records' : Table NodeId Text) :
    let w : Workspace := ⟨d, ⟨t, .standard, recording, records⟩, p⟩
    let w' : Workspace := ⟨d, ⟨t, .standard, recording, records'⟩, p'⟩
    let next := (w.execute o.command).1
    w.perform (.standard t) o = w.ask o ∧
      ((w.ask o).result = (w'.ask o).result ∧ (w.ask o).notices = (w'.ask o).notices ∧
        (w.ask o).writes = (w'.ask o).writes) ∧
      (((w.ask o).workspace.ask o).workspace = (w.ask o).workspace ∧
        ((w.ask o).workspace.ask o).result = (w.ask o).result) ∧
      (w.execute o.command).2 = (w'.execute o.command).2 ∧
      (next.execute o.command).1.properties = next.properties ∧
      (next.execute o.command).2 = (w.execute o.command).2 := by
  intro w w' next
  refine ⟨w.perform_eq_ask (LiveEngine.realizes_standard t) o, ⟨rfl, rfl, rfl⟩, ⟨?_, rfl⟩, ?_⟩
  · exact congrArg (Workspace.mk d ⟨t, .standard, recording, records⟩) (p.after_after _)
  · obtain ⟨es, answer, h⟩ := o.independent_command d t .standard recording
    obtain ⟨records₁, h₁⟩ := h p records
    obtain ⟨records₂, h₂⟩ := h p' records'
    obtain ⟨records₃, h₃⟩ := h (p.after es) records₁
    have hnext : next = ⟨d, ⟨t, .standard, recording, records₁⟩, p.after es⟩ :=
      congrArg Prod.fst h₁
    refine ⟨(congrArg Prod.snd h₁).trans (congrArg Prod.snd h₂).symm, ?_, ?_⟩
    · rw [hnext, h₃]
      exact p.after_after es
    · rw [hnext, h₃, h₁]

end TreeQuery
