import TreeQuery.Proofs.Evaluation.Search
import TreeQuery.Proofs.Properties.Writes

set_option relaxedAutoImplicit false
set_option autoImplicit false

/-!
# Actions on a store

An evaluation collects its effects and leaves it to whoever asked to apply them. An action is
performed on a store instead: it is given the store as earlier actions have left it, and an
assignment changes the store there and then. An error ends the action, and what has been written
before stays written.

An evaluation can be replayed as an action. Replaying follows the way evaluations are put together,
because effects that come one after the other are applied one after the other.

## Main definitions

* `TreeQuery.Store` — properties, and what has been written and noticed so far.
* `TreeQuery.Action` — an answer or an error that is found by changing a store.
* `TreeQuery.Eval.replay` — an evaluation as an action.

## Main results

* `TreeQuery.Store.after_append` — effects one after the other.
* `TreeQuery.Eval.replay_bind`, `TreeQuery.Eval.replay_excuse`, `TreeQuery.Eval.replay_keep`,
  `TreeQuery.Eval.replay_findFirst` — replaying what has been put together.
-/

namespace TreeQuery

/-! ## Stores -/

/-- The properties of all nodes, with the writes and the notices that have led to them. -/
structure Store where
  properties : Properties
  /-- The writes so far, in order. -/
  writes : List Write
  /-- The notices so far, in order. -/
  notices : List Notice

namespace Store

/-- The store after a value has been assigned to a property. -/
def assign (store : Store) (n : NodeId) (name : Text) (value : Json) : Store where
  properties := store.properties.put n name value
  writes := store.writes ++ [⟨n, name, value⟩]
  notices := store.notices

/-- The store after a notice. -/
def give (store : Store) (notice : Notice) : Store where
  properties := store.properties
  writes := store.writes
  notices := store.notices ++ [notice]

/-- The store after effects in order. -/
def after (store : Store) : List Effect → Store
  | [] => store
  | .assign n name value :: effects => (store.assign n name value).after effects
  | .notice notice :: effects => (store.give notice).after effects

/-- **Effects one after the other** change a store one after the other. -/
lemma after_append (store : Store) (es fs : List Effect) :
    store.after (es ++ fs) = (store.after es).after fs := by
  induction es generalizing store with
  | nil => rfl
  | cons e es ih =>
    cases e with
    | assign n name value => exact ih _
    | notice notice => exact ih _

/-- What effects leave in a store: the properties that they leave, and all of their writes and
notices. -/
lemma after_eq (store : Store) (es : List Effect) :
    store.after es = ⟨store.properties.after es, store.writes ++ writesOf es,
      store.notices ++ noticesOf es⟩ := by
  induction es generalizing store with
  | nil => simp [after, Properties.after, writesOf, noticesOf]
  | cons e es ih =>
    cases e with
    | assign n name value =>
      rw [after, ih]
      simp [assign, Properties.after, writesOf, noticesOf]
    | notice notice =>
      rw [after, ih]
      simp [give, Properties.after, writesOf, noticesOf]

end Store

/-! ## Actions -/

/-- What is performed on a store: it gives an answer or an error and leaves the store changed, in
both cases. -/
abbrev Action : Type → Type := ExceptT QueryError (StateM Store)

namespace Action

variable {α β : Type}

/-- The answer or error of an action and the store that it leaves. -/
def perform (x : Action α) (store : Store) : Except QueryError α × Store := x.run.run store

lemma ext {x y : Action α} (h : ∀ store, x.perform store = y.perform store) : x = y := funext h

/-- Goes on in the store that an action has left, unless the action has failed. -/
lemma perform_bind (x : Action α) (f : α → Action β) (store : Store) :
    (x >>= f).perform store = match x.perform store with
      | (.ok a, next) => (f a).perform next
      | (.error e, next) => (.error e, next) := by
  simp only [perform, ExceptT.run, StateT.run, bind, ExceptT.bind, ExceptT.mk, ExceptT.bindCont,
    StateT.bind]
  cases x store with
  | mk result next => cases result <;> rfl

/-- What comes after an error is performed in the store that the failed action has left. -/
lemma perform_tryCatch (x : Action α) (f : QueryError → Action α) (store : Store) :
    (tryCatch x f).perform store = match x.perform store with
      | (.ok a, next) => (.ok a, next)
      | (.error e, next) => (f e).perform next := by
  simp only [perform, ExceptT.run, StateT.run, tryCatch, tryCatchThe, MonadExceptOf.tryCatch,
    ExceptT.tryCatch, ExceptT.mk, bind, StateT.bind]
  cases x store with
  | mk result next => cases result <;> rfl

/-- Assigns a value to a property of a node. -/
def assign (n : NodeId) (name : Text) (value : Json) : Action Unit :=
  modify fun store => store.assign n name value

/-- Gives a notice. -/
def give (notice : Notice) : Action Unit := modify fun store => store.give notice

/-- Gives notices in order. -/
def giveAll : List Notice → Action Unit
  | [] => pure ()
  | notice :: notices => do
    give notice
    giveAll notices

/-- The answer of a native query. -/
def ofNative (x : Except Native.InvalidSelector α) : Action α :=
  match x with
  | .ok a => pure a
  | .error e => throw (.invalidSelector e)

/-- Turns an error into the answer no and a notice. -/
def excuse (notice : QueryError → Notice) (x : Action Bool) : Action Bool :=
  tryCatch x fun e => do
    give (notice e)
    return false

/-- The members of a list that pass the test, in order. -/
def keep (test : α → Action Bool) : List α → Action (List α)
  | [] => pure []
  | a :: as => do
    let passes ← test a
    let rest ← keep test as
    return if passes then a :: rest else rest

/-- The first member of a list that passes the test. Later members are not tested. -/
def findFirst (test : α → Action Bool) : List α → Action (Option α)
  | [] => pure none
  | a :: as => do
    if ← test a then return some a else findFirst test as

end Action

/-! ## Replaying -/

namespace Eval

variable {α β : Type}

/-- An evaluation as an action: the effects of the evaluation change the store. -/
def replay (x : Eval α) : Action α :=
  ExceptT.mk fun store => (x.result, store.after x.effects)

/-- What is performed when an evaluation is replayed. -/
lemma perform_replay (x : Eval α) (store : Store) :
    x.replay.perform store = (x.result, store.after x.effects) := rfl

@[simp] lemma replay_pure (a : α) : replay (pure a) = pure a := rfl

@[simp] lemma replay_fail (e : QueryError) : replay (fail e : Eval α) = throw e := rfl

/-- **Going on after an evaluation** is going on after the action that it is replayed as. -/
lemma replay_bind (x : Eval α) (f : α → Eval β) :
    replay (x >>= f) = replay x >>= fun a => replay (f a) := by
  apply Action.ext
  intro store
  rw [Action.perform_bind, perform_replay, perform_replay]
  cases h : x.result with
  | ok a =>
    rw [bind_of_ok h, Store.after_append]
    rfl
  | error e => rw [bind_of_error h]

@[simp] lemma replay_notices (ns : List Notice) : replay (notices ns) = Action.giveAll ns := by
  induction ns with
  | nil => rfl
  | cons n ns ih =>
    have hcons : notices (n :: ns) = perform (.notice n) >>= fun _ => notices ns := rfl
    rw [hcons, replay_bind, ih]
    rfl

@[simp] lemma replay_ofNative (x : Except Native.InvalidSelector α) :
    replay (ofNative x) = Action.ofNative x := by
  cases x <;> rfl

/-- **A failure that is excused** leaves in the store what was written before it. -/
lemma replay_excuse (notice : QueryError → Notice) (x : Eval Bool) :
    replay (x.excuse notice) = (replay x).excuse notice := by
  apply Action.ext
  intro store
  rw [Action.excuse, Action.perform_tryCatch, perform_replay, perform_replay, excuse]
  cases x.result with
  | ok b => rfl
  | error e =>
    rw [Store.after_append]
    rfl

lemma replay_keep (test : α → Eval Bool) (l : List α) :
    replay (keep test l) = Action.keep (fun a => replay (test a)) l := by
  induction l with
  | nil => rfl
  | cons a l ih =>
    simp only [keep_cons, Action.keep, replay_bind, ih]
    rfl

/-- The search for the first member does not act on behalf of later members. -/
lemma replay_findFirst (test : α → Eval Bool) (l : List α) :
    replay (findFirst test l) = Action.findFirst (fun a => replay (test a)) l := by
  induction l with
  | nil => rfl
  | cons a l ih =>
    rw [findFirst_cons, replay_bind, Action.findFirst]
    refine bind_congr fun b => ?_
    cases b with
    | true => rfl
    | false => exact ih

end Eval

end TreeQuery
