import Mathlib.Tactic.Lemma
import TreeQuery.Native.Parser

set_option relaxedAutoImplicit false
set_option autoImplicit false

/-!
# The grammar of native selectors

The grammar in its own right, without an order of alternatives and without any rule that a
repetition has to go on as long as it can:

```text
list       = complex (ws* ',' ws* complex)*
complex    = compound ((ws* '>' ws* | ws+) compound)*
compound   = ('*' | name)? simple*                          (not empty)
simple     = '#' name | '.' name | '[' ws* name ws* (operator ws* value ws*)? ']'
operator   = '=' | '~=' | '^=' | '$=' | '*='
value      = '"' [^"]* '"' | "'" [^']* "'" | name
ws         = space, tab, carriage return or line feed
name       = one or more of: alphanumeric, '-', '_'
```

Every rule is a type of derivations. A derivation keeps all the characters that were derived,
spaces and quotes included, so that two derivations of one text that differ anywhere are two
different values. Side conditions of the rules are fields, so that only derivations can be
written down.

## Main definitions

* `TreeQuery.Native.Grammar.SelectorList` — the derivations from the start symbol, and the
  types of derivations for all other symbols.
* `TreeQuery.Native.Grammar.SelectorList.text` — the derived text.
* `TreeQuery.Native.Grammar.SelectorList.list` — the selector list that the derivation
  describes.
-/

namespace TreeQuery.Native

open Text

/-- The characters with which an operator is written. -/
def Operator.sign : Operator → Text
  | equals => ['=']
  | includes => ['~', '=']
  | begins => ['^', '=']
  | ends => ['$', '=']
  | contains => ['*', '=']

namespace Grammar

/-! ## Names, spaces and values -/

/-- Derivations of `ws*`. -/
abbrev Spaces := { s : Text // ∀ c ∈ s, isSpace c = true }

/-- Derivations of `name`. -/
abbrev Name := { s : Text // s ≠ [] ∧ ∀ c ∈ s, isNameChar c = true }

/-- Derivations of `value`. -/
inductive Value
  | doubleQuoted (value : Text) (free : '"' ∉ value)
  | singleQuoted (value : Text) (free : '\'' ∉ value)
  | bare (name : Name)

/-- The derived text. -/
def Value.text : Value → Text
  | doubleQuoted v _ => '"' :: v ++ ['"']
  | singleQuoted v _ => '\'' :: v ++ ['\'']
  | bare n => n.1

/-- The value that is meant: the text without its quotes. -/
def Value.value : Value → Text
  | doubleQuoted v _ => v
  | singleQuoted v _ => v
  | bare n => n.1

/-! ## Simple selectors -/

/-- Derivations of `operator ws* value ws*`. -/
structure Comparison where
  operator : Operator
  before : Spaces
  value : Value
  after : Spaces

/-- The derived text. -/
def Comparison.text (c : Comparison) : Text :=
  c.operator.sign ++ (c.before.1 ++ (c.value.text ++ c.after.1))

/-- Derivations of an attribute test between brackets. -/
structure Attribute where
  before : Spaces
  name : Name
  after : Spaces
  comparison : Option Comparison

/-- The derived text behind the opening bracket. -/
def Attribute.inner (a : Attribute) : Text :=
  a.before.1 ++ (a.name.1 ++ (a.after.1 ++ (a.comparison.elim [] Comparison.text ++ [']'])))

/-- The attribute test that is meant. -/
def Attribute.test (a : Attribute) : AttributeTest where
  name := a.name.1
  comparison := a.comparison.map fun c => (c.operator, c.value.value)

/-- Derivations of `simple`. -/
inductive Simple
  | id (name : Name)
  | className (name : Name)
  | attribute (a : Attribute)

/-- The derived text. -/
def Simple.text : Simple → Text
  | .id n => '#' :: n.1
  | .className n => '.' :: n.1
  | .attribute a => '[' :: a.inner

/-! ## Compounds -/

/-- Derivations of `'*' | name`. -/
inductive TypeSelector
  | any
  | tag (name : Name)

/-- The derived text. -/
def TypeSelector.text : TypeSelector → Text
  | any => ['*']
  | tag n => n.1

/-- The tag that is meant, if one is. -/
def TypeSelector.tag? : TypeSelector → Option Text
  | any => none
  | tag n => some n.1

/-- Derivations of `compound`. -/
structure Compound where
  type : Option TypeSelector
  simples : List Simple
  nonempty : type ≠ none ∨ simples ≠ []

/-- The derived text. -/
def Compound.text (c : Compound) : Text :=
  c.type.elim [] TypeSelector.text ++ c.simples.flatMap Simple.text

/-- The compound that is meant. Ids, classes and attribute tests keep their order of
appearance. -/
def Compound.compound (c : Compound) : Native.Compound where
  tag := c.type.bind TypeSelector.tag?
  ids := c.simples.filterMap fun | .id n => some n.1 | _ => none
  classes := c.simples.filterMap fun | .className n => some n.1 | _ => none
  attributes := c.simples.filterMap fun | .attribute a => some a.test | _ => none

/-! ## Complex selectors -/

/-- Derivations of `ws* '>' ws* | ws+`. -/
inductive Combinator
  | child (before after : Spaces)
  | descendant (spaces : Spaces) (nonempty : spaces.1 ≠ [])

/-- The derived text. -/
def Combinator.text : Combinator → Text
  | child before after => before.1 ++ '>' :: after.1
  | descendant spaces _ => spaces.1

/-- The combinator that is meant. -/
def Combinator.combinator : Combinator → Native.Combinator
  | child _ _ => .child
  | descendant _ _ => .descendant

/-- A combinator and the compound behind it. -/
abbrev Link := Combinator × Compound

/-- The derived text. -/
def Link.text (l : Link) : Text := l.1.text ++ l.2.text

/-- Derivations of `complex`. -/
structure Complex where
  head : Compound
  links : List Link

/-- The derived text. -/
def Complex.text (x : Complex) : Text := x.head.text ++ x.links.flatMap Link.text

/-- The complex selector that is `left` with further combinators and compounds to its right. -/
def extendBy (left : Native.Complex) (links : List Link) : Native.Complex :=
  links.foldl (fun left l => .extend left l.1.combinator l.2.compound) left

/-- The complex selector that is meant. -/
def Complex.complex (x : Complex) : Native.Complex := extendBy (.single x.head.compound) x.links

/-! ## Lists -/

/-- Derivations of `ws* ',' ws* complex`. -/
structure Item where
  before : Spaces
  after : Spaces
  complex : Complex

/-- The derived text. -/
def Item.text (i : Item) : Text := i.before.1 ++ ',' :: (i.after.1 ++ i.complex.text)

/-- Derivations of `list`. -/
structure SelectorList where
  head : Complex
  items : List Item

/-- The derived text. -/
def SelectorList.text (t : SelectorList) : Text := t.head.text ++ t.items.flatMap Item.text

/-- The selector list that is meant. -/
def SelectorList.list (t : SelectorList) : Native.SelectorList :=
  t.head.complex :: t.items.map fun i => i.complex.complex

end Grammar

end TreeQuery.Native
