import TreeQuery.Alternatives
import TreeQuery.Native.Query
import TreeQuery.Pseudo.Registry
import TreeQuery.Template.Occurrence

/-!
# The query engine

A selector in which the gate finds no occurrence is answered by the document alone. Otherwise its
occurrences are taken out; the elements that satisfy what is left are the candidates, and those
are kept of which every pseudo-selector of the selector holds. A pseudo-selector that fails on a
candidate excludes it and leaves a notice. If nothing is left besides the occurrences, the root
of the query is the only candidate.

## Main definitions

* `TreeQuery.Engine` — a template and a registry.
* `TreeQuery.Engine.findFirst`, `TreeQuery.Engine.findAll` — one selector.
* `TreeQuery.Engine.query`, `TreeQuery.Engine.queryAll` — alternative selectors.
* `TreeQuery.Engine.settle` — a conditional rule.

## Design

A pseudo-selector may start queries below a candidate. Their selectors are shorter than the one
that is being evaluated, and `findFirst` recurses on the length of the selector.
-/

namespace TreeQuery

/-- How occurrences are written and what their names stand for. -/
structure Engine where
  template : Template
  registry : Registry

/-- A pseudo-selector with its argument, which is shorter than `limit`. -/
structure Call (limit : Nat) where
  pseudo : Pseudo
  argument : Text
  short : argument.length < limit

/-- A selector taken apart: its native base and its pseudo-selectors, in order. -/
structure Parsed (limit : Nat) where
  /-- The native selector that is left; if it is empty the root itself is meant. -/
  base : Text
  calls : List (Call limit)

/-- A node and the alternative that found it. -/
structure Match where
  node : NodeId
  alternative : Text
  deriving DecidableEq, Repr

/-- Applies the assignment of a rule for the given outcome to a node. -/
def Rule.settle (r : Rule) (n : NodeId) (found : Bool) : Eval Bool := do
  match r.branch found with
  | some a => Eval.perform (.assign n a.property a.value)
  | none => pure ()
  return found

/-- The view of a node that pseudo-selectors get, `nested` being the answer to queries below
it. -/
def Element.ofNode (d : Document) (n : NodeId) (limit : Nat)
    (nested : (s : Text) → s.length < limit → Eval (Option NodeId)) : Element limit where
  text := d.textContent n
  satisfies s := Eval.ofNative (d.satisfies n s)
  hasClosest s := do return (← Eval.ofNative (d.closest n s)).isSome
  hasMatch s h := do return (← nested s h).isSome
  settle r h := do r.settle n (← nested r.selector h).isSome
  assign name value := Eval.perform (.assign n name value)

namespace Engine

/-! ## Taking selectors apart -/

/-- Whether a selector may hold pseudo-selectors. -/
def hasPseudo (q : Engine) (s : Text) : Bool := q.template.gate s

/-- The pseudo-selectors of a selector whose names are registered, in order. -/
def calls (q : Engine) (s : Text) : List (Call s.length) :=
  (q.template.occurrences s).attach.filterMap fun ⟨o, h⟩ =>
    (q.registry.find? o.name).map fun p =>
      ⟨p, q.template.argument o, Template.length_argument_lt h⟩

/-- A notice for every occurrence whose name is not registered, in order. -/
def unknownNotices (q : Engine) (s : Text) : List Notice :=
  (q.template.occurrences s).filterMap fun o =>
    if (q.registry.find? o.name).isSome then none else some (.unknownPseudo o.name s)

/-- Takes a selector apart. Occurrences with unknown names are dropped with a notice. -/
def parse (q : Engine) (s : Text) : Eval (Parsed s.length) := do
  Eval.notices (q.unknownNotices s)
  return ⟨q.template.base s, q.calls s⟩

/-! ## Candidates -/

/-- The nodes that are tested: the root itself if the base is empty, else the elements below it
that satisfy the base. -/
def candidates (d : Document) (root : NodeId) (base : Text) : Eval (List NodeId) :=
  if base.isEmpty then pure [root] else Eval.ofNative (d.selectAll root base)

/-- Whether all pseudo-selectors hold of an element, tested in order until one does not. -/
def holdAll {limit : Nat} (e : Element limit) : List (Call limit) → Eval Bool
  | [] => pure true
  | c :: cs => do
    if ← c.pseudo e c.argument c.short then holdAll e cs else return false

/-- Whether a candidate is kept. A failing pseudo-selector excludes it. -/
def keeps {limit : Nat} (s : Text) (n : NodeId) (e : Element limit) (cs : List (Call limit)) :
    Eval Bool :=
  (holdAll e cs).excuse fun error => .predicateFailed s n error

/-! ## One selector -/

/-- The first node that the selector finds. Candidates behind it are not tested. -/
def findFirst (q : Engine) (d : Document) (root : NodeId) (s : Text) : Eval (Option NodeId) :=
  if q.hasPseudo s then do
    let parsed ← q.parse s
    let nodes ← candidates d root parsed.base
    Eval.findFirst (fun n => keeps s n
      (Element.ofNode d n s.length fun t _ => findFirst q d n t) parsed.calls) nodes
  else Eval.ofNative (d.selectFirst root s)
termination_by s.length

/-- The view of a node while a selector of length `limit` is evaluated: queries below it are
answered by the engine. -/
def element (q : Engine) (d : Document) (n : NodeId) (limit : Nat) : Element limit :=
  Element.ofNode d n limit fun t _ => q.findFirst d n t

/-- All nodes that the selector finds, in document order. -/
def findAll (q : Engine) (d : Document) (root : NodeId) (s : Text) : Eval (List NodeId) :=
  if q.hasPseudo s then do
    let parsed ← q.parse s
    let nodes ← candidates d root parsed.base
    Eval.keep (fun n => keeps s n (q.element d n s.length) parsed.calls) nodes
  else Eval.ofNative (d.selectAll root s)

/-! ## Alternatives -/

/-- The first node of the first alternative that finds anything. -/
def query (q : Engine) (d : Document) (root : NodeId) : Alternatives → Eval (Option Match)
  | [] => pure none
  | s :: alternatives => do
    match ← q.findFirst d root s with
    | some n => return some ⟨n, s⟩
    | none => query q d root alternatives

/-- What an alternative contributes: all nodes it finds, or only the first one. -/
def contribution (q : Engine) (d : Document) (root : NodeId) (greedy : Bool) (s : Text) :
    Eval (List NodeId) :=
  if greedy then q.findAll d root s else do return (← q.findFirst d root s).toList

/-- The nodes that are not among those seen before, each once. -/
def unseen (seen : List NodeId) : List NodeId → List NodeId
  | [] => []
  | n :: nodes => if n ∈ seen then unseen seen nodes else n :: unseen (n :: seen) nodes

/-- The contributions of further alternatives, without the nodes seen before. -/
def collect (q : Engine) (d : Document) (root : NodeId) (greedy : Bool) (seen : List NodeId) :
    Alternatives → Eval (List Match)
  | [] => pure []
  | s :: alternatives => do
    let fresh := unseen seen (← q.contribution d root greedy s)
    let rest ← collect q d root greedy (fresh ++ seen) alternatives
    return fresh.map (⟨·, s⟩) ++ rest

/-- The contributions of all alternatives in order, every node once, with the first alternative
that found it. -/
def queryAll (q : Engine) (d : Document) (root : NodeId) (alternatives : Alternatives)
    (greedy : Bool) : Eval (List Match) :=
  q.collect d root greedy [] alternatives

/-! ## Rules -/

/-- Asks for the selector of a rule below a node, applies the assignment of the rule for the
outcome to the node, and returns whether anything was found. -/
def settle (q : Engine) (d : Document) (n : NodeId) (r : Rule) : Eval Bool := do
  r.settle n (← q.findFirst d n r.selector).isSome

end Engine

end TreeQuery
