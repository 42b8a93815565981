import TreeQuery.Document.Basic
import TreeQuery.Json.Basic
import TreeQuery.Native.Basic

/-!
# Evaluations

Evaluating a selector gives an answer or an error, and on the way properties are assigned to
nodes and notices are written. Nothing that is evaluated can read a property, so an evaluation
is an answer together with the list of its effects; applying the effects to a store of properties
and to a log is left to whoever asked.

## Main definitions

* `TreeQuery.QueryError`, `TreeQuery.Notice` — what can go wrong, and what is worth a notice.
* `TreeQuery.Effect` — an assignment or a notice.
* `TreeQuery.Eval` — an answer or an error, with effects; a monad.
* `TreeQuery.Eval.keep`, `TreeQuery.Eval.findFirst` — all members of a list that pass a test, and
  the first one, after which no further test is made.
-/

namespace TreeQuery

/-! ## Errors and notices -/

/-- Why a query has no answer. -/
inductive QueryError
  /-- A text is not a native selector. -/
  | invalidSelector (e : Native.InvalidSelector)
  /-- A pseudo-selector cannot make sense of its argument. -/
  | badArgument (pseudo detail : Text)
  deriving DecidableEq, Repr

/-- The wording of an error. -/
def QueryError.message : QueryError → Text
  | invalidSelector e => "Host query failed: ".toList ++ e.message
  | badArgument pseudo detail =>
    "Pseudo-selector '".toList ++ pseudo ++ "' has an invalid argument: ".toList ++ detail

/-- What is worth a notice. -/
inductive Notice
  /-- An occurrence whose name is not registered. -/
  | unknownPseudo (name selector : Text)
  /-- A predicate that failed on a node, which is left out of the result. -/
  | predicateFailed (selector : Text) (node : NodeId) (error : QueryError)
  /-- A registered name that no occurrence can have. -/
  | unmatchableName (name : Text)
  /-- A name that was registered before. -/
  | registeredAgain (name : Text)
  /-- Provenance records were dropped. -/
  | provenanceCleared (count : Nat)
  /-- A line that a predicate writes by itself. -/
  | remark (line : Text)
  deriving DecidableEq, Repr

/-- The wording of a notice. How a node is shown is up to the reader of the document; without
`showNode` a failure is told without the node. -/
def Notice.message (n : Notice) (showNode : Option (NodeId → Text) := none) : Text :=
  match n with
  | unknownPseudo name selector =>
    "Unknown pseudo-selector '".toList ++ name ++ "' in '".toList ++ selector ++
      "', ignoring it".toList
  | predicateFailed selector node error =>
    let place := showNode.elim [] fun shown => " on ".toList ++ shown node ++ ", excluding it".toList
    "Pseudo-selector in '".toList ++ selector ++ "' failed".toList ++ place ++ ": ".toList ++
      error.message
  | unmatchableName name =>
    "Pseudo-selector '".toList ++ name ++
      "' contains non-word characters and can never be matched by the parser".toList
  | registeredAgain name => "Pseudo-selector '".toList ++ name ++ "' re-registered".toList
  | provenanceCleared count =>
    "Cleared ".toList ++ Nat.toDigits 10 count ++ " provenance records".toList
  | remark line => line

/-- What an evaluation does besides answering. -/
inductive Effect
  /-- A property of a node gets a value. -/
  | assign (node : NodeId) (name : Text) (value : Json)
  /-- A notice is written. -/
  | notice (n : Notice)
  deriving Repr

/-! ## Evaluations -/

/-- An answer or an error, and the effects of finding it, in order. -/
structure Eval (α : Type) where
  result : Except QueryError α
  effects : List Effect

namespace Eval

variable {α β : Type}

/-- An answer without effects. -/
def ok (a : α) : Eval α := ⟨.ok a, []⟩

/-- An error without effects. -/
def fail (e : QueryError) : Eval α := ⟨.error e, []⟩

/-- A single effect. -/
def perform (e : Effect) : Eval Unit := ⟨.ok (), [e]⟩

/-- Effects that are no more than notices. -/
def notices (ns : List Notice) : Eval Unit := ⟨.ok (), ns.map .notice⟩

/-- Goes on with the answer of `x`. After an error nothing more happens. -/
def andThen (x : Eval α) (f : α → Eval β) : Eval β :=
  match x.result with
  | .ok a => ⟨(f a).result, x.effects ++ (f a).effects⟩
  | .error e => ⟨.error e, x.effects⟩

instance : Monad Eval where
  pure := ok
  bind := andThen

theorem pure_eq (a : α) : (pure a : Eval α) = ok a := rfl

theorem bind_eq (x : Eval α) (f : α → Eval β) : x >>= f = andThen x f := rfl

@[simp] theorem ok_andThen (a : α) (f : α → Eval β) : andThen (ok a) f = f a := rfl

@[simp] theorem andThen_ok (x : Eval α) : andThen x ok = x := by
  obtain ⟨r, es⟩ := x
  cases r <;> simp [andThen, ok]

theorem andThen_assoc {γ : Type} (x : Eval α) (f : α → Eval β) (g : β → Eval γ) :
    andThen (andThen x f) g = andThen x fun a => andThen (f a) g := by
  obtain ⟨r, es⟩ := x
  cases r with
  | error e => rfl
  | ok a =>
    simp only [andThen]
    cases (f a).result <;> simp

instance : LawfulMonad Eval :=
  LawfulMonad.mk' Eval (fun x => andThen_ok x) (fun a f => ok_andThen a f)
    (fun x f g => andThen_assoc x f g)

/-- The answer of a native query. -/
def ofNative (x : Except Native.InvalidSelector α) : Eval α :=
  match x with
  | .ok a => ok a
  | .error e => fail (.invalidSelector e)

/-- Turns an error into the answer no and a notice. -/
def excuse (notice : QueryError → Notice) (x : Eval Bool) : Eval Bool :=
  match x.result with
  | .ok b => ⟨.ok b, x.effects⟩
  | .error e => ⟨.ok false, x.effects ++ [.notice (notice e)]⟩

/-- The members of a list that pass the test, in order. -/
def keep (test : α → Eval Bool) : List α → Eval (List α)
  | [] => ok []
  | a :: as => do
    let passes ← test a
    let rest ← keep test as
    return if passes then a :: rest else rest

/-- The first member of a list that passes the test. Later members are not tested. -/
def findFirst (test : α → Eval Bool) : List α → Eval (Option α)
  | [] => ok none
  | a :: as => do
    if ← test a then return some a else findFirst test as

end Eval

end TreeQuery
