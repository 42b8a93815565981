import TreeQuery.Evaluation
import TreeQuery.Rule

/-!
# Pseudo-selectors

A pseudo-selector is a test of an element, given the argument of an occurrence. It sees the
element through a narrow view: its text, native questions about it, queries below it, and the
assignment of properties.

## Main definitions

* `TreeQuery.Element` — what a pseudo-selector sees of an element.
* `TreeQuery.Pseudo` — a pseudo-selector.

## Design

Queries below an element may hold pseudo-selectors again. That evaluation comes to an end is part
of the types: the view of an element has a limit, the length of the selector that is being
evaluated, and answers queries only about shorter selectors. The argument of an occurrence is
always below the limit, and so is everything that is written inside the argument.
-/

namespace TreeQuery

/-- What a pseudo-selector sees of an element while a selector of length `limit` is evaluated. -/
structure Element (limit : Nat) where
  /-- The text of the element and of everything below it. -/
  text : Text
  /-- Whether the element satisfies a native selector. -/
  satisfies : Text → Eval Bool
  /-- Whether the element or an element above it satisfies a native selector. -/
  hasClosest : Text → Eval Bool
  /-- Whether a query below the element, pseudo-selectors included, finds anything. -/
  hasMatch : (s : Text) → s.length < limit → Eval Bool
  /-- Applies a rule to the element, and says whether the selector of the rule found anything. -/
  settle : (r : Rule) → r.selector.length < limit → Eval Bool
  /-- Gives a property of the element a value. -/
  assign : Text → Json → Eval Unit

/-- A test of an element, given an argument. -/
def Pseudo : Type :=
  {limit : Nat} → Element limit → (argument : Text) → argument.length < limit → Eval Bool

/-- A pseudo-selector that depends on the text of the element and the argument alone. -/
def Pseudo.ofText (test : (text argument : Text) → Bool) : Pseudo :=
  fun e argument _ => pure (test e.text argument)

end TreeQuery
