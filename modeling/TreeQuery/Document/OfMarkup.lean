import TreeQuery.Document.Basic
import TreeQuery.Markup.Namespace

/-!
# Documents from markup

The tokens of a marked-up text are put together to a document: one element with everything inside
it, and around it nothing but asides and spaces.

## Main definitions

* `TreeQuery.Document.ofMarkup` — the document that a text describes, or why it describes none.
-/

namespace TreeQuery.Document

open Markup Text

/-- An element that has been opened and not yet closed. -/
structure Opened where
  id : NodeId
  name : QName
  /-- The qualifiers in force inside the element. -/
  scope : Scope

/-- A document under construction. -/
structure Draft where
  /-- The nodes so far. -/
  document : Document
  /-- The elements that are open, innermost first. -/
  opened : List Opened
  opened_le : ∀ o ∈ opened, o.id ≤ document.nodes.size

namespace Draft

/-- The draft before the first token. -/
def empty : Draft := ⟨Document.empty, [], by simp⟩

/-- The node that the next node becomes a child of. -/
def parent (d : Draft) : NodeId := (d.opened.head?.map (·.id)).getD 0

theorem parent_le (d : Draft) : d.parent ≤ d.document.nodes.size := by
  unfold parent
  cases h : d.opened with
  | nil => simp
  | cons o opened => simpa using d.opened_le o (by simp [h])

/-- The draft with one more node. -/
def add (d : Draft) (content : Content) : Draft where
  document := d.document.push ⟨d.parent, content⟩ d.parent_le
  opened := d.opened
  opened_le := by
    intro o ho
    simpa [Document.push] using Nat.le_succ_of_le (d.opened_le o ho)

/-- The draft with one more element, which stays open. -/
def enter (d : Draft) (name : QName) (scope : Scope) (content : Content) : Draft where
  document := (d.add content).document
  opened := ⟨(d.add content).document.nodes.size, name, scope⟩ :: d.opened
  opened_le := by
    intro o ho
    rcases List.mem_cons.1 ho with rfl | ho
    · simp
    · exact (d.add content).opened_le o ho

/-- The draft with the innermost open element closed. -/
def close (d : Draft) : Draft where
  document := d.document
  opened := d.opened.tail
  opened_le := fun o ho => d.opened_le o (List.mem_of_mem_tail ho)

/-- The qualifiers in force at the place of the next token. -/
def scope (d : Draft) : Scope := (d.opened.head?.map (·.scope)).getD []

/-- Whether the outermost element has been closed, or nothing has been opened at all. -/
def isOutside (d : Draft) : Bool := d.opened.isEmpty

/-- Whether there is an element already. -/
def hasElement (d : Draft) : Bool := !d.document.nodes.isEmpty

/-- The draft after a token. -/
def step (d : Draft) : Token → Except Problem Draft
  | .aside => .ok d
  | .text raw =>
    if d.isOutside then if raw.all isSpace then .ok d else .error .misplaced
    else do return d.add (.text (← textOfRaw raw))
  | .verbatim raw =>
    if d.isOutside then .error .misplaced else .ok (d.add (.text (textOfVerbatim raw)))
  | .start name raw closed => do
    if d.isOutside && d.hasElement then throw .misplaced
    if name.qualifier = declarationQualifier then throw .badName
    let (scope, attributes) ← resolve d.scope name raw
    let content := .element name.name (attributes.map fun a => ⟨a.1.name, a.2⟩)
    return if closed then d.add content else d.enter name scope content
  | .stop name =>
    match d.opened with
    | [] => .error .misplaced
    | o :: _ => if o.name = name then .ok d.close else .error .wrongEndTag

/-- The draft after further tokens. -/
def steps (d : Draft) : List Token → Except Problem Draft
  | [] => .ok d
  | t :: tokens => do (← d.step t).steps tokens

/-- The finished document: one element, and none left open. -/
def finish (d : Draft) : Except Problem Document :=
  if !d.isOutside then .error .unclosedElement
  else if !d.hasElement then .error .noElement
  else .ok d.document

end Draft

/-- The document that a text describes. -/
def ofMarkup (s : Text) : Except Problem Document := do
  (← Draft.empty.steps (← tokensOfText s)).finish

end TreeQuery.Document
