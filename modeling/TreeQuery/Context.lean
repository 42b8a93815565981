import TreeQuery.Document.OfMarkup
import TreeQuery.Engine

/-!
# Contexts

A context owns everything that queries depend on besides the document: the template, the registry
and the record of where found nodes came from. Queries are asked from a node, and what they find
are nodes again, from which one can ask further.

## Main definitions

* `TreeQuery.Error` — what an operation of a context can fail with.
* `TreeQuery.Handle` — a node of a document.
* `TreeQuery.Context` — template, registry, and the provenance of found nodes.
* `TreeQuery.Context.query`, `TreeQuery.Context.queryAll`, `TreeQuery.Context.closest`,
  `TreeQuery.Context.settle` — questions from a node.
* `TreeQuery.Context.wrap`, `TreeQuery.Context.provenance` — recording and reading provenance.
-/

namespace TreeQuery

/-! ## Errors -/

/-- What an operation can fail with. -/
inductive Error
  | query (e : QueryError)
  | configuration (p : Json.Problem)
  | document (p : Markup.Problem)
  /-- A file cannot be read. -/
  | file (name : Text)
  deriving DecidableEq, Repr

/-- The wording of an error. -/
def Error.message : Error → Text
  | query e => "Query failed: ".toList ++ e.message
  | configuration p => "Invalid configuration: ".toList ++ p.message
  | document p => "Document could not be parsed: ".toList ++ p.message
  | file name => "I/O error: ".toList ++ name

/-! ## Handles -/

/-- A node of a document.

Handles are told apart by the numbers of their nodes alone. The numbers count the elements and texts
of a document and pass over asides in the markup, which are comments and processing instructions.
Within one document this has no part in which handles are equal. Across documents that hold asides
it has: if asides were numbered as well, nodes with the same number would be other pairs of nodes. -/
structure Handle where
  document : Document
  node : NodeId

namespace Handle

/-- Handles are compared by the numbers of their nodes. -/
instance : BEq Handle := ⟨fun a b => a.node == b.node⟩

/-- The node with another number in the same document. -/
def sibling (h : Handle) (n : NodeId) : Handle := ⟨h.document, n⟩

/-- The local tag name; empty for the document node. -/
def tag (h : Handle) : Text := h.document.tag h.node

/-- The text of the node and of everything below it. -/
def text (h : Handle) : Text := h.document.textContent h.node

/-- The value of an attribute. -/
def attribute? (h : Handle) (name : Text) : Option Text := h.document.attribute? h.node name

end Handle

/-- The document node of a document. -/
def Document.root (d : Document) : Handle := ⟨d, 0⟩

/-! ## Contexts -/

/-- Template, registry and provenance of a family of queries. -/
structure Context where
  template : Template
  registry : Registry
  /-- Whether queries record the provenance of what they find. -/
  recording : Bool
  /-- The selector last recorded for a node, by the number of the node. -/
  records : Table NodeId Text

namespace Context

/-- A context with the built-in template and pseudo-selectors. -/
def new (recording : Bool) : Context := ⟨.default, .standard, recording, []⟩

/-- The engine for the current template and registry. -/
def engine (c : Context) : Engine := ⟨c.template, c.registry⟩

/-! ### Configuration -/

/-- Changes some tokens of the template. -/
def configure (c : Context) (p : Template.Patch) : Context :=
  { c with template := c.template.apply p }

/-- Changes the tokens that a data text gives. -/
def configureJson (c : Context) (s : Text) : Except Error Context :=
  match Template.Patch.ofJson s with
  | .ok p => .ok (c.configure p)
  | .error p => .error (.configuration p)

/-- Restores the built-in template. -/
def reset (c : Context) : Context := { c with template := .default }

/-- Switches the recording of provenance on or off. -/
def setRecording (c : Context) (on : Bool) : Context := { c with recording := on }

/-- Registers a pseudo-selector. -/
def register (c : Context) (name : Text) (pseudo : Pseudo) : Context × List Notice :=
  let (registry, notices) := c.registry.register name pseudo
  ({ c with registry := registry }, notices)

/-! ### Provenance -/

/-- Records a selector for a node, in place of an earlier record. -/
def record (c : Context) (h : Handle) (s : Text) : Context :=
  { c with records := c.records.put h.node s }

/-- Binds a node to the context. If a selector is given it is recorded for the node. -/
def wrap (c : Context) (h : Option Handle) (s : Option Text) : Context :=
  match h, s with
  | some h, some s => c.record h s
  | _, _ => c

/-- The selector last recorded for a node. -/
def provenance (c : Context) (h : Handle) : Option Text := c.records.get? h.node

/-- Forgets all recorded selectors. -/
def clearProvenance (c : Context) : Context × List Notice :=
  ({ c with records := [] }, [.provenanceCleared c.records.length])

/-- What a query records for what it finds: the selector if recording is on, else nothing. -/
def recorded (c : Context) (s : Text) : Option Text := if c.recording then some s else none

/-- Records the alternatives that found the nodes. -/
def wrapAll (c : Context) (root : Handle) : List Match → Context
  | [] => c
  | m :: ms => (c.wrap (some (root.sibling m.node)) (c.recorded m.alternative)).wrapAll root ms

/-! ### Questions -/

/-- An evaluation together with the context after it. -/
structure Reply (α : Type) where
  context : Context
  eval : Eval α

/-- The first node of the first alternative that finds anything. -/
def query (c : Context) (root : Handle) (alternatives : Alternatives) : Reply (Option Handle) :=
  let found := c.engine.query root.document root.node alternatives
  { context := match found.result with
      | .ok (some m) => c.wrapAll root [m]
      | _ => c
    eval := (fun m => m.map fun m => root.sibling m.node) <$> found }

/-- The nodes that the alternatives find, every node once. If `greedy` is false every alternative
contributes at most one node. -/
def queryAll (c : Context) (root : Handle) (alternatives : Alternatives) (greedy : Bool) :
    Reply (List Handle) :=
  let found := c.engine.queryAll root.document root.node alternatives greedy
  { context := match found.result with
      | .ok ms => c.wrapAll root ms
      | .error _ => c
    eval := (fun ms => ms.map fun m => root.sibling m.node) <$> found }

/-- The root or the nearest node above it that satisfies one of the alternatives, which are
joined to one native selector. There is none without alternatives. -/
def closest (c : Context) (root : Handle) (alternatives : Alternatives) : Reply (Option Handle) :=
  if alternatives.isEmpty then ⟨c, pure none⟩
  else
    let joined := alternatives.joined
    let found := Eval.ofNative (root.document.closest root.node joined)
    { context := match found.result with
        | .ok (some n) => c.wrap (some (root.sibling n)) (c.recorded joined)
        | _ => c
      eval := (fun n => n.map root.sibling) <$> found }

/-- Applies a rule to a node, and says whether its selector found anything. -/
def settle (c : Context) (h : Handle) (r : Rule) : Eval Bool :=
  c.engine.settle h.document h.node r

end Context

end TreeQuery
