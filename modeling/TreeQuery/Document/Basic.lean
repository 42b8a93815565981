import TreeQuery.Text.Basic

/-!
# Documents

A document is a tree of elements and texts below one document node. Its nodes are numbered in
document order, the document node being number zero, and every other node knows its parent,
which comes before it.

## Main definitions

* `TreeQuery.NodeId` — the number of a node.
* `TreeQuery.Document` — the nodes after the document node, each with its parent.
* `TreeQuery.Document.ancestors`, `TreeQuery.Document.descendants` — what lies above a node,
  nearest first, and below it, in document order.
* `TreeQuery.Document.textContent` — the text of all texts below a node.
* `TreeQuery.Document.attribute?` — the value of an attribute by its local name.

## Main results

* `TreeQuery.Document.parent?_lt` — a parent comes before its children, so that going up ends.
* `TreeQuery.Document.descendants_eq_filter` — going down is the converse of going up.
-/

namespace TreeQuery

/-- The number of a node in document order. It says nothing about the document it belongs to. -/
abbrev NodeId := Nat

/-- An attribute of an element; the namespace of its name is not kept. -/
structure Attribute where
  /-- The local name. -/
  name : Text
  value : Text
  deriving DecidableEq, Repr

/-- What a node is. -/
inductive Content
  /-- An element with its local tag name and its attributes in document order. -/
  | element (tag : Text) (attributes : List Attribute)
  /-- A text. -/
  | text (content : Text)
  deriving DecidableEq, Repr

/-- A node below the document node. -/
structure Node where
  /-- The node directly above it. -/
  parent : NodeId
  content : Content
  deriving DecidableEq, Repr

/-- The nodes of a document in document order. The node at position `i` has the number `i + 1`;
number zero is the document node above them all. -/
structure Document where
  nodes : Array Node
  /-- A parent comes before its children. -/
  parent_le : ∀ (i : Nat) (h : i < nodes.size), nodes[i].parent ≤ i

namespace Document

/-- The document without any node below its document node. -/
def empty : Document := ⟨#[], by simp⟩

/-- The document with one more node at its end. -/
def push (d : Document) (node : Node) (h : node.parent ≤ d.nodes.size) : Document where
  nodes := d.nodes.push node
  parent_le := by
    intro i hi
    rw [Array.size_push] at hi
    by_cases hd : i < d.nodes.size
    · simpa [Array.getElem_push, hd] using d.parent_le i hd
    · have : i = d.nodes.size := by omega
      subst this
      simpa using h

/-- The number of nodes, the document node included. -/
def size (d : Document) : Nat := d.nodes.size + 1

/-- The node with the given number, unless that is the document node or no node. -/
def node? (d : Document) : NodeId → Option Node
  | 0 => none
  | n + 1 => d.nodes[n]?

/-! ## Elements and their attributes -/

/-- Whether the node is an element. -/
def isElement (d : Document) (n : NodeId) : Bool :=
  match d.node? n with
  | some ⟨_, .element _ _⟩ => true
  | _ => false

/-- The local tag name of an element; empty for other nodes. -/
def tag (d : Document) (n : NodeId) : Text :=
  match d.node? n with
  | some ⟨_, .element tag _⟩ => tag
  | _ => []

/-- The attributes of an element in document order. -/
def attributes (d : Document) (n : NodeId) : List Attribute :=
  match d.node? n with
  | some ⟨_, .element _ attributes⟩ => attributes
  | _ => []

/-- The value of the first attribute with the given local name. -/
def attribute? (d : Document) (n : NodeId) (name : Text) : Option Text :=
  ((d.attributes n).find? fun a => a.name = name).map (·.value)

/-! ## Up and down -/

/-- The node directly above a node. -/
def parent? (d : Document) (n : NodeId) : Option NodeId := (d.node? n).map (·.parent)

/-- A parent comes before its children. -/
theorem parent?_lt {d : Document} {n p : NodeId} (h : d.parent? n = some p) : p < n := by
  unfold parent? node? at h
  split at h
  · simp at h
  · rename_i i
    obtain ⟨node, hn, rfl⟩ := Option.map_eq_some_iff.1 h
    obtain ⟨hi, rfl⟩ := Array.getElem?_eq_some_iff.1 hn
    exact Nat.lt_succ_of_le (d.parent_le i hi)

/-- The nodes above a node, nearest first. -/
def ancestors (d : Document) (n : NodeId) : List NodeId :=
  match _h : d.parent? n with
  | none => []
  | some p => p :: ancestors d p
termination_by n
decreasing_by exact parent?_lt ‹_›

/-- The node directly above a node, if it is an element. -/
def parentElement? (d : Document) (n : NodeId) : Option NodeId :=
  (d.parent? n).filter d.isElement

/-- Which of the nodes up to `k` lie below `n`: those directly below it, and those directly below
one that lies below it. Every parent has been looked at before its children. -/
def below (d : Document) (n : NodeId) : (k : Nat) → Array Bool
  | 0 => #[false]
  | k + 1 =>
    let flags := d.below n k
    flags.push (match d.parent? (k + 1) with
      | none => false
      | some p => p == n || flags[p]?.getD false)

/-- The nodes below a node, in document order. -/
def descendants (d : Document) (n : NodeId) : List NodeId :=
  let flags := d.below n d.nodes.size
  (List.range d.size).filter fun x => flags[x]?.getD false

@[simp] theorem size_below (d : Document) (n : NodeId) (k : Nat) :
    (d.below n k).size = k + 1 := by
  induction k with
  | zero => rfl
  | succ k ih => simp [below, ih]

/-- A node is marked as lying below `n` exactly when `n` is among the nodes above it. -/
theorem getElem?_below {d : Document} {n : NodeId} {x k : Nat} (h : x ≤ k) :
    (d.below n k)[x]? = some ((d.ancestors x).contains n) := by
  induction k generalizing x with
  | zero =>
    obtain rfl : x = 0 := by omega
    rw [ancestors]
    simp [below, parent?, node?]
  | succ k ih =>
    simp only [below, Array.getElem?_push, size_below]
    split
    · rename_i hx
      subst hx
      rw [ancestors]
      cases hp : d.parent? (k + 1) with
      | none => simp
      | some p =>
        have hk : p ≤ k := Nat.le_of_lt_succ (parent?_lt hp)
        simp only [ih hk, Option.getD_some, List.contains_cons]
        rw [Bool.beq_comm]
    · exact ih (by omega)

/-- The nodes below `n` are those that have `n` above them. -/
theorem descendants_eq_filter (d : Document) (n : NodeId) :
    d.descendants n = (List.range d.size).filter fun x => (d.ancestors x).contains n := by
  refine List.filter_congr fun x hx => ?_
  have : x ≤ d.nodes.size := Nat.le_of_lt_succ (List.mem_range.1 hx)
  simp [getElem?_below this]

/-- The elements of a document, in document order. -/
def elements (d : Document) : List NodeId := (List.range d.size).filter d.isElement

/-! ## Text -/

/-- The text that a node itself holds. -/
def ownText (d : Document) (n : NodeId) : Text :=
  match d.node? n with
  | some ⟨_, .text content⟩ => content
  | _ => []

/-- The text of a node and of all nodes below it, in document order. -/
def textContent (d : Document) (n : NodeId) : Text :=
  (n :: d.descendants n).flatMap d.ownText

end Document

end TreeQuery
