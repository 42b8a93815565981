import TreeQuery.Context
import TreeQuery.Properties

/-!
# Workspaces

A workspace is a document at work: its nodes have properties, a context answers queries about
it, and commands change both. A run of commands is the whole history of a workspace.

## Main definitions

* `TreeQuery.Workspace` — a document with its properties and a context.
* `TreeQuery.Command`, `TreeQuery.Answer` — what can be asked of it, and what it answers.
* `TreeQuery.Workspace.execute`, `TreeQuery.Workspace.run` — one command, and several.
-/

namespace TreeQuery

/-- A document with the properties of its nodes and a context. -/
structure Workspace where
  document : Document
  context : Context
  properties : Properties

/-- What can be asked of a workspace. -/
inductive Command
  | configure (p : Template.Patch)
  | configureJson (s : Text)
  | reset
  | setRecording (on : Bool)
  | register (name : Text) (pseudo : Pseudo)
  | query (root : NodeId) (alternatives : Alternatives)
  | queryAll (root : NodeId) (alternatives : Alternatives) (greedy : Bool)
  | closest (root : NodeId) (alternatives : Alternatives)
  | settle (node : NodeId) (r : Rule)
  | wrap (node : Option NodeId) (s : Option Text)
  | clearProvenance
  | assign (node : NodeId) (name : Text) (value : Json)

/-- What a workspace answers. -/
inductive Answer
  | done
  | node (n : Option NodeId)
  | nodes (ns : List NodeId)
  | truth (b : Bool)
  | failed (e : Error)
  deriving DecidableEq, Repr

namespace Workspace

/-- A document without properties and a fresh context. -/
def new (d : Document) (recording : Bool) : Workspace := ⟨d, .new recording, []⟩

/-- A node of the document. -/
def handle (w : Workspace) (n : NodeId) : Handle := ⟨w.document, n⟩

/-- The answer of an evaluation. -/
def answer {α : Type} (encode : α → Answer) (x : Eval α) : Answer :=
  match x.result with
  | .ok a => encode a
  | .error e => .failed (.query e)

/-- The workspace after an evaluation that left `context`, the answer, and the notices. -/
def conclude {α : Type} (w : Workspace) (context : Context) (encode : α → Answer) (x : Eval α) :
    Workspace × Answer × List Notice :=
  ({ w with context := context, properties := w.properties.after x.effects },
    answer encode x, noticesOf x.effects)

/-- The workspace with another context, which is all that a command has changed. -/
def withContext (w : Workspace) (c : Context) (notices : List Notice) :
    Workspace × Answer × List Notice :=
  ({ w with context := c }, .done, notices)

/-- The workspace after a command, the answer, and the notices. -/
def execute (w : Workspace) : Command → Workspace × Answer × List Notice
  | .configure p => w.withContext (w.context.configure p) []
  | .configureJson s =>
    match w.context.configureJson s with
    | .ok c => w.withContext c []
    | .error e => (w, .failed e, [])
  | .reset => w.withContext w.context.reset []
  | .setRecording on => w.withContext (w.context.setRecording on) []
  | .register name pseudo =>
    let (c, notices) := w.context.register name pseudo
    w.withContext c notices
  | .query root alternatives =>
    let r := w.context.query (w.handle root) alternatives
    w.conclude r.context (fun h => .node (h.map (·.node))) r.eval
  | .queryAll root alternatives greedy =>
    let r := w.context.queryAll (w.handle root) alternatives greedy
    w.conclude r.context (fun hs => .nodes (hs.map (·.node))) r.eval
  | .closest root alternatives =>
    let r := w.context.closest (w.handle root) alternatives
    w.conclude r.context (fun h => .node (h.map (·.node))) r.eval
  | .settle node r => w.conclude w.context .truth (w.context.settle (w.handle node) r)
  | .wrap node s =>
    ({ w with context := w.context.wrap (node.map w.handle) s }, .node node, [])
  | .clearProvenance =>
    let (c, notices) := w.context.clearProvenance
    w.withContext c notices
  | .assign node name value =>
    ({ w with properties := w.properties.put node name value }, .done, [])

/-- The workspace after a run of commands. -/
def run (w : Workspace) : List Command → Workspace
  | [] => w
  | c :: commands => (w.execute c).1.run commands

end Workspace

end TreeQuery
