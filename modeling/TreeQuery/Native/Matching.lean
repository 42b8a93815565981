import TreeQuery.Document.Basic
import TreeQuery.Native.Basic
import TreeQuery.Text.Blank

/-!
# Matching native selectors

When an element of a document satisfies a native selector. A complex selector is matched from
right to left: its last compound against the element itself, the rest against the element above
it that the combinator allows; for a descendant combinator every element above is tried.

## Main definitions

* `TreeQuery.Native.AttributeTest.accepts` — attribute tests.
* `TreeQuery.Native.Compound.holds`, `TreeQuery.Native.Complex.holds`,
  `TreeQuery.Native.SelectorList.holds` — whether a node satisfies a selector.
-/

namespace TreeQuery.Native

open Text

/-- Whether an attribute value stands in the relation to the value of a test. An empty test
value begins, ends and occurs in nothing. -/
def Operator.compare (op : Operator) (value actual : Text) : Bool :=
  match op with
  | equals => actual == value
  | includes => (words actual).contains value
  | begins => !value.isEmpty && value.isPrefixOf actual
  | ends => !value.isEmpty && value.isSuffixOf actual
  | contains => !value.isEmpty && occursIn value actual

/-- Whether a node has the attribute of the test with an acceptable value. -/
def AttributeTest.accepts (t : AttributeTest) (d : Document) (n : NodeId) : Bool :=
  match d.attribute? n t.name with
  | none => false
  | some actual =>
    match t.comparison with
    | none => true
    | some (op, value) => op.compare value actual

/-- The classes of a node: the words of its `class` attribute. -/
def classesOf (d : Document) (n : NodeId) : List Text :=
  words ((d.attribute? n "class".toList).getD [])

/-- Whether a node is an element that satisfies all conditions of the compound. -/
def Compound.holds (c : Compound) (d : Document) (n : NodeId) : Bool :=
  d.isElement n &&
  c.tag.all (fun tag => d.tag n == tag) &&
  c.ids.all (fun id => d.attribute? n "id".toList == some id) &&
  c.classes.all (fun name => (classesOf d n).contains name) &&
  c.attributes.all (fun t => t.accepts d n)

/-- Whether a node satisfies the complex selector. -/
def Complex.holds (d : Document) : Complex → NodeId → Bool
  | single c, n => c.holds d n
  | extend left .child c, n => c.holds d n && (d.parentElement? n).any (left.holds d)
  | extend left .descendant c, n =>
    c.holds d n && (d.ancestors n).any fun a => d.isElement a && left.holds d a

/-- Whether a node is an element that satisfies one of the selectors. -/
def SelectorList.holds (list : SelectorList) (d : Document) (n : NodeId) : Bool :=
  d.isElement n && list.any fun x => x.holds d n

end TreeQuery.Native
