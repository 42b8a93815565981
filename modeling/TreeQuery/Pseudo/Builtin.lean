import TreeQuery.Pseudo.Basic
import TreeQuery.Text.Blank
import TreeQuery.Text.Case

/-!
# Built-in pseudo-selectors

Five tests of the text of an element, two native questions about the element, and one
pseudo-selector that applies a rule.

## Main definitions

* `TreeQuery.Pseudo.contains`, `TreeQuery.Pseudo.containsAny`, `TreeQuery.Pseudo.exact`,
  `TreeQuery.Pseudo.startsWith`, `TreeQuery.Pseudo.endsWith` — tests of the text.
* `TreeQuery.Pseudo.self`, `TreeQuery.Pseudo.closest` — native questions.
* `TreeQuery.Pseudo.smuggleIf` — applies the rule in its argument and never holds.
* `TreeQuery.Pseudo.builtins` — all of them under their names.
-/

namespace TreeQuery.Pseudo

open Text

/-! ## Tests of the text -/

/-- Whether the text holds the argument, in any case of letters. -/
def textContains (text argument : Text) : Bool := occursIn (lower argument) (lower text)

/-- The parts of a comma-separated argument, trimmed and in lower case, without empty ones. -/
def fragments (argument : Text) : List Text :=
  ((pieces (· == ',') argument).map fun part => lower (trim part)).filter fun f => !f.isEmpty

/-- Whether the text holds one of the parts of the argument, in any case of letters. -/
def textContainsAny (text argument : Text) : Bool :=
  (fragments argument).any fun f => occursIn f (lower text)

/-- Whether text and argument are the same up to blanks at their ends. -/
def textEquals (text argument : Text) : Bool := trim text == trim argument

/-- Whether the trimmed text begins with the argument, in any case of letters. -/
def textStarts (text argument : Text) : Bool :=
  (lower argument).isPrefixOf (lower (trim text))

/-- Whether the trimmed text ends with the argument, in any case of letters. -/
def textEnds (text argument : Text) : Bool :=
  (lower argument).isSuffixOf (lower (trim text))

/-- Holds if the text of the element holds the argument. -/
def contains : Pseudo := ofText textContains

/-- Holds if the text of the element holds a part of the argument. -/
def containsAny : Pseudo := ofText textContainsAny

/-- Holds if the text of the element is the argument. -/
def exact : Pseudo := ofText textEquals

/-- Holds if the text of the element begins with the argument. -/
def startsWith : Pseudo := ofText textStarts

/-- Holds if the text of the element ends with the argument. -/
def endsWith : Pseudo := ofText textEnds

/-! ## Native questions -/

/-- Holds if the element satisfies the native selector in the argument. -/
def self : Pseudo := fun e argument _ => e.satisfies argument

/-- Holds if the element or one above it satisfies the native selector in the argument. -/
def closest : Pseudo := fun e argument _ => e.hasClosest argument

/-! ## Rules -/

/-- Applies the rule that the argument holds as a data text, and never holds itself. -/
def smuggleIf : Pseudo := fun e argument short =>
  match h : Rule.ofJson argument with
  | .error problem => .fail (.badArgument "smuggleIf".toList problem.message)
  | .ok rule => do
    let _ ← e.settle rule (Nat.lt_trans (Rule.length_selector_lt h) short)
    return false

/-! ## Names -/

/-- The built-in pseudo-selectors under their names. -/
def builtins : List (Text × Pseudo) :=
  [ ("contains".toList, contains), ("containsAny".toList, containsAny), ("exact".toList, exact),
    ("startsWith".toList, startsWith), ("endsWith".toList, endsWith), ("self".toList, self),
    ("closest".toList, closest), ("smuggleIf".toList, smuggleIf) ]

end TreeQuery.Pseudo
