import TreeQuery.Native.Matching
import TreeQuery.Native.Parser

/-!
# Native queries

The four questions that a document answers about native selectors: the first node below a node,
all nodes below it, the node itself, and the nearest node from it upwards. A text that is no
native selector is rejected by all four in the same way.

## Main definitions

* `TreeQuery.Document.selectAll`, `TreeQuery.Document.selectFirst` — the elements below a node.
* `TreeQuery.Document.satisfies` — the node itself.
* `TreeQuery.Document.closest` — the node or the nearest element above it.
-/

namespace TreeQuery.Document

open Native

/-- The elements below `root` that satisfy the selector, in document order. The root itself is
not among them, but combinators may look at it and above it. -/
def selectAll (d : Document) (root : NodeId) (s : Text) :
    Except InvalidSelector (List NodeId) :=
  (SelectorList.parse s).map fun list => (d.descendants root).filter fun n => list.holds d n

/-- The first element below `root` that satisfies the selector. -/
def selectFirst (d : Document) (root : NodeId) (s : Text) :
    Except InvalidSelector (Option NodeId) :=
  (SelectorList.parse s).map fun list => (d.descendants root).find? fun n => list.holds d n

/-- Whether the node satisfies the selector. -/
def satisfies (d : Document) (n : NodeId) (s : Text) : Except InvalidSelector Bool :=
  (SelectorList.parse s).map fun list => list.holds d n

/-- The node itself or the nearest node above it that satisfies the selector. -/
def closest (d : Document) (n : NodeId) (s : Text) : Except InvalidSelector (Option NodeId) :=
  (SelectorList.parse s).map fun list => (n :: d.ancestors n).find? fun a => list.holds d a

end TreeQuery.Document
