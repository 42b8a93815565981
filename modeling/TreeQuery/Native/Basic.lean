import TreeQuery.Text.Quoted

/-!
# Native selectors

The selectors that a document tree answers by itself, without pseudo-selectors: tags, ids,
classes and attribute tests, joined by combinators, in lists of alternatives.

## Main definitions

* `TreeQuery.Native.Compound` — the conditions on one element.
* `TreeQuery.Native.Complex` — compounds joined by combinators.
* `TreeQuery.Native.SelectorList` — alternatives separated by commas.
* `TreeQuery.Native.InvalidSelector` — why a text is not a native selector.

## Design

A complex selector is built to the right: its last compound is the condition on the element
itself, and what stands to the left of the last combinator is a complex selector on some element
above it. Matching walks up the tree along this structure, and a complex selector without a
compound, or with a combinator too many, cannot be written down.
-/

namespace TreeQuery.Native

/-! ## Syntax -/

/-- How an attribute value is compared with the value of a test. -/
inductive Operator
  /-- The two values are equal. -/
  | equals
  /-- The test value is one of the words of the attribute value. -/
  | includes
  /-- The attribute value begins with the test value. -/
  | begins
  /-- The attribute value ends with the test value. -/
  | ends
  /-- The test value occurs in the attribute value. -/
  | contains
  deriving DecidableEq, Repr

/-- A condition on one attribute: that it is there, and how its value compares. -/
structure AttributeTest where
  /-- The local name of the attribute. -/
  name : Text
  /-- The comparison, if the attribute must do more than be there. -/
  comparison : Option (Operator × Text)
  deriving DecidableEq, Repr

/-- The conditions on one element, written without a combinator. -/
structure Compound where
  /-- The tag name, or nothing for any element. -/
  tag : Option Text
  /-- The ids that the element must have, in order of appearance. -/
  ids : List Text
  /-- The classes that the element must have, in order of appearance. -/
  classes : List Text
  /-- The attribute tests, in order of appearance. -/
  attributes : List AttributeTest
  deriving DecidableEq, Repr

/-- How the element of a compound is placed under the element of the compound before it. -/
inductive Combinator
  /-- Anywhere below it. -/
  | descendant
  /-- Directly below it. -/
  | child
  deriving DecidableEq, Repr

/-- Compounds joined by combinators; the rightmost compound speaks of the element itself. -/
inductive Complex
  | single (compound : Compound)
  | extend (left : Complex) (combinator : Combinator) (compound : Compound)
  deriving DecidableEq, Repr

/-- Alternatives separated by commas. -/
abbrev SelectorList := List Complex

namespace Complex

/-- The compounds from left to right. -/
def compounds : Complex → List Compound
  | single c => [c]
  | extend left _ c => left.compounds ++ [c]

/-- The combinators from left to right, one fewer than the compounds. -/
def combinators : Complex → List Combinator
  | single _ => []
  | extend left k _ => left.combinators ++ [k]

theorem length_compounds (s : Complex) : s.compounds.length = s.combinators.length + 1 := by
  induction s with
  | single c => rfl
  | extend left k c ih => simp [compounds, combinators, ih]

end Complex

/-! ## Rejections -/

/-- Why a text is not a native selector. -/
inductive Reason
  /-- Nothing is left after trimming. -/
  | empty
  /-- A list of selectors ends before `rest`, which is not empty. -/
  | unexpected (rest : Text)
  /-- The trimmed text does not begin with a compound. -/
  | unreadable (trimmed : Text)
  deriving DecidableEq, Repr

/-- The rejection of a text as a native selector, with the text as it was given. -/
structure InvalidSelector where
  /-- The rejected text, untrimmed. -/
  selector : Text
  /-- Why it was rejected. -/
  reason : Reason
  deriving DecidableEq, Repr

/-- The wording of a reason. -/
def Reason.message : Reason → Text
  | empty => "empty selector".toList
  | unexpected rest => "unexpected input at '".toList ++ rest ++ "'".toList
  | unreadable trimmed =>
    "Parsing Error: Error \x7b input: ".toList ++ Text.quoted trimmed ++
      ", code: Verify \x7d".toList

/-- The wording of a rejection. -/
def InvalidSelector.message (e : InvalidSelector) : Text :=
  "Invalid selector '".toList ++ e.selector ++ "': ".toList ++ e.reason.message

end TreeQuery.Native
