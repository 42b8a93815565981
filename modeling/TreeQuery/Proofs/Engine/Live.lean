import Mathlib.Data.List.Forall2
import Mathlib.Data.Nat.Init
import TreeQuery.Proofs.Engine.FirstMatch
import TreeQuery.Proofs.Evaluation.Action

set_option relaxedAutoImplicit false
set_option autoImplicit false

/-!
# An engine that acts at once

The engine of a context only collects what it assigns, so that no property can have a part in its
answers. The engine below is given a store instead and hands it on from each step to the next one:
from pseudo-selector to pseudo-selector, from candidate to candidate and from alternative to
alternative, and down into the queries that rules start below a candidate and back. Everything that
is assigned on the way is in the store there and then.

The two engines agree. What the second one does to a store is to give the answer of the first one
and to apply the effects that the first one has collected, in the same order.

## Main definitions

* `TreeQuery.LiveElement`, `TreeQuery.LivePseudo` — what a pseudo-selector sees, and
  pseudo-selectors, as actions.
* `TreeQuery.LiveEngine` — an engine that acts on a store.
* `TreeQuery.LivePseudo.Realizes`, `TreeQuery.LiveEngine.Realizes` — acting as something does that
  collects effects.

## Main results

* `TreeQuery.LiveEngine.realizes_standard` — the built-in pseudo-selectors.
* `TreeQuery.LiveEngine.findFirst_eq_replay` — the first node, by induction on the length of the
  selector; likewise for the other questions.
-/

namespace TreeQuery

/-! ## Pseudo-selectors -/

/-- What a pseudo-selector sees of an element while a selector of length `limit` is evaluated,
every question and assignment being performed on the store. -/
structure LiveElement (limit : Nat) where
  /-- The text of the element and of everything below it. -/
  text : Text
  /-- Whether the element satisfies a native selector. -/
  satisfies : Text → Action Bool
  /-- Whether the element or an element above it satisfies a native selector. -/
  hasClosest : Text → Action Bool
  /-- Whether a query below the element, pseudo-selectors included, finds anything. -/
  hasMatch : (s : Text) → s.length < limit → Action Bool
  /-- Applies a rule to the element, and says whether the selector of the rule found anything. -/
  settle : (r : Rule) → r.selector.length < limit → Action Bool
  /-- Gives a property of the element a value. -/
  assign : Text → Json → Action Unit

/-- A test of an element, given an argument, that may act on the store. -/
structure LivePseudo where
  holds : {limit : Nat} → LiveElement limit → (argument : Text) → argument.length < limit →
    Action Bool

/-- The selector of a rule stays below every limit that the data text of the rule is below. -/
lemma Rule.length_selector_lt_limit {argument : Text} {r : Rule} {limit : Nat}
    (h : ofJson argument = .ok r) (short : argument.length < limit) : r.selector.length < limit :=
  Nat.lt_trans (length_selector_lt h) short

namespace LivePseudo

/-- A pseudo-selector that depends on the text of the element and the argument alone. -/
def ofText (test : (text argument : Text) → Bool) : LivePseudo where
  holds e argument _ := pure (test e.text argument)

/-- Holds if the element satisfies the native selector in the argument. -/
def self : LivePseudo where
  holds e argument _ := e.satisfies argument

/-- Holds if the element or one above it satisfies the native selector in the argument. -/
def closest : LivePseudo where
  holds e argument _ := e.hasClosest argument

/-- Applies the rule that the argument holds as a data text, and never holds itself. -/
def smuggleIf : LivePseudo where
  holds e argument short :=
    match h : Rule.ofJson argument with
    | .ok rule => do
      let _ ← e.settle rule (Rule.length_selector_lt_limit h short)
      return false
    | .error problem => throw (.badArgument "smuggleIf".toList problem.message)

/-- The built-in pseudo-selectors under their names. -/
def builtins : Table Text LivePseudo :=
  [ ("contains".toList, ofText Pseudo.textContains),
    ("containsAny".toList, ofText Pseudo.textContainsAny),
    ("exact".toList, ofText Pseudo.textEquals),
    ("startsWith".toList, ofText Pseudo.textStarts),
    ("endsWith".toList, ofText Pseudo.textEnds), ("self".toList, self),
    ("closest".toList, closest), ("smuggleIf".toList, smuggleIf) ]

end LivePseudo

/-- A pseudo-selector with its argument, which is shorter than `limit`. -/
structure LiveCall (limit : Nat) where
  pseudo : LivePseudo
  argument : Text
  short : argument.length < limit

/-! ## The engine -/

/-- How occurrences are written and what their names stand for. -/
structure LiveEngine where
  template : Template
  pseudos : Table Text LivePseudo

/-- Assigns what a rule says for the given outcome to a node, there and then. -/
def Rule.settleLive (r : Rule) (n : NodeId) (found : Bool) : Action Bool := do
  match r.branch found with
  | some a => Action.assign n a.property a.value
  | none => pure ()
  return found

/-- The view of a node that pseudo-selectors get, `nested` being performed for queries below it. -/
def LiveElement.ofNode (d : Document) (n : NodeId) (limit : Nat)
    (nested : (s : Text) → s.length < limit → Action (Option NodeId)) : LiveElement limit where
  text := d.textContent n
  satisfies s := Action.ofNative (d.satisfies n s)
  hasClosest s := do return (← Action.ofNative (d.closest n s)).isSome
  hasMatch s h := do return (← nested s h).isSome
  settle r h := do r.settleLive n (← nested r.selector h).isSome
  assign name value := Action.assign n name value

namespace LiveEngine

/-- The engine with the built-in pseudo-selectors. -/
def standard (t : Template) : LiveEngine := ⟨t, LivePseudo.builtins⟩

/-- The pseudo-selectors of a selector whose names are known, in order. -/
def calls (q : LiveEngine) (s : Text) : List (LiveCall s.length) :=
  (q.template.occurrences s).attach.filterMap fun ⟨o, h⟩ =>
    (Table.get? o.name q.pseudos).map fun p =>
      ⟨p, q.template.argument o, Template.length_argument_lt h⟩

/-- A notice for every occurrence whose name is not known, in order. -/
def unknownNotices (q : LiveEngine) (s : Text) : List Notice :=
  (q.template.occurrences s).filterMap fun o =>
    if (Table.get? o.name q.pseudos).isSome then none else some (.unknownPseudo o.name s)

/-- The nodes that are tested: the root itself if the base is empty, else the elements below it
that satisfy the base. -/
def candidates (d : Document) (root : NodeId) (base : Text) : Action (List NodeId) :=
  if base.isEmpty then pure [root] else Action.ofNative (d.selectAll root base)

/-- Whether all pseudo-selectors hold of an element, performed in order until one does not. -/
def holdAll {limit : Nat} (e : LiveElement limit) : List (LiveCall limit) → Action Bool
  | [] => pure true
  | c :: cs => do
    if ← c.pseudo.holds e c.argument c.short then holdAll e cs else return false

/-- Whether a candidate is kept. A failing pseudo-selector excludes it. -/
def keeps {limit : Nat} (s : Text) (n : NodeId) (e : LiveElement limit)
    (cs : List (LiveCall limit)) : Action Bool :=
  (holdAll e cs).excuse fun error => .predicateFailed s n error

/-- The first node that the selector finds. Candidates behind it are not tested. -/
def findFirst (q : LiveEngine) (d : Document) (root : NodeId) (s : Text) :
    Action (Option NodeId) :=
  if q.template.gate s then do
    Action.giveAll (q.unknownNotices s)
    let nodes ← candidates d root (q.template.base s)
    Action.findFirst (fun n => keeps s n
      (LiveElement.ofNode d n s.length fun t _ => findFirst q d n t) (q.calls s)) nodes
  else Action.ofNative (d.selectFirst root s)
termination_by s.length

/-- All nodes that the selector finds, in document order. -/
def findAll (q : LiveEngine) (d : Document) (root : NodeId) (s : Text) : Action (List NodeId) :=
  if q.template.gate s then do
    Action.giveAll (q.unknownNotices s)
    let nodes ← candidates d root (q.template.base s)
    Action.keep (fun n => keeps s n
      (LiveElement.ofNode d n s.length fun t _ => q.findFirst d n t) (q.calls s)) nodes
  else Action.ofNative (d.selectAll root s)

/-- The first node of the first alternative that finds anything. -/
def query (q : LiveEngine) (d : Document) (root : NodeId) : Alternatives → Action (Option Match)
  | [] => pure none
  | s :: alternatives => do
    match ← q.findFirst d root s with
    | some n => return some ⟨n, s⟩
    | none => query q d root alternatives

/-- What an alternative contributes: all nodes it finds, or only the first one. -/
def contribution (q : LiveEngine) (d : Document) (root : NodeId) (greedy : Bool) (s : Text) :
    Action (List NodeId) :=
  if greedy then q.findAll d root s else do return (← q.findFirst d root s).toList

/-- The contributions of further alternatives, without the nodes seen before. -/
def collect (q : LiveEngine) (d : Document) (root : NodeId) (greedy : Bool) (seen : List NodeId) :
    Alternatives → Action (List Match)
  | [] => pure []
  | s :: alternatives => do
    let fresh := Engine.unseen seen (← q.contribution d root greedy s)
    let rest ← collect q d root greedy (fresh ++ seen) alternatives
    return fresh.map (⟨·, s⟩) ++ rest

/-- Asks for the selector of a rule below a node, assigns what the rule says for the outcome, and
returns whether anything was found. -/
def settle (q : LiveEngine) (d : Document) (n : NodeId) (r : Rule) : Action Bool := do
  r.settleLive n (← q.findFirst d n r.selector).isSome

end LiveEngine

/-! ## Acting as something does that collects effects -/

/-- The view acts as the other one does. -/
structure LiveElement.Realizes {limit : Nat} (e' : LiveElement limit) (e : Element limit) :
    Prop where
  text : e'.text = e.text
  satisfies : ∀ s, e'.satisfies s = (e.satisfies s).replay
  hasClosest : ∀ s, e'.hasClosest s = (e.hasClosest s).replay
  hasMatch : ∀ s h, e'.hasMatch s h = (e.hasMatch s h).replay
  settle : ∀ r h, e'.settle r h = (e.settle r h).replay
  assign : ∀ name value, e'.assign name value = (e.assign name value).replay

/-- The pseudo-selector acts as the other one does, if its view does. -/
def LivePseudo.Realizes (p' : LivePseudo) (p : Pseudo) : Prop :=
  ∀ {limit : Nat} {e' : LiveElement limit} {e : Element limit}, e'.Realizes e →
    ∀ (argument : Text) (short : argument.length < limit),
      p'.holds e' argument short = (p e argument short).replay

/-- The calls have the same argument, and one pseudo-selector acts as the other one does. -/
structure LiveCall.Realizes {limit : Nat} (c' : LiveCall limit) (c : Call limit) : Prop where
  argument : c'.argument = c.argument
  pseudo : c'.pseudo.Realizes c.pseudo

/-- The engines have the same template and know the same names, and what a name stands for in one
of them acts as what it stands for in the other. -/
structure LiveEngine.Realizes (q' : LiveEngine) (q : Engine) : Prop where
  template : q'.template = q.template
  pseudos : ∀ name, Option.Rel LivePseudo.Realizes (Table.get? name q'.pseudos)
    (q.registry.find? name)

/-! ## Built-in pseudo-selectors -/

namespace LivePseudo

lemma realizes_ofText (test : (text argument : Text) → Bool) :
    (ofText test).Realizes (Pseudo.ofText test) := by
  intro limit e' e he argument short
  exact congrArg (fun text => pure (test text argument)) he.text

lemma realizes_self : self.Realizes Pseudo.self :=
  fun he argument _ => he.satisfies argument

lemma realizes_closest : closest.Realizes Pseudo.closest :=
  fun he argument _ => he.hasClosest argument

/-- Applying a rule acts as it does when effects are collected. -/
lemma realizes_smuggleIf : smuggleIf.Realizes Pseudo.smuggleIf := by
  intro limit e' e he argument short
  simp only [smuggleIf]
  split
  · rename_i r hrule
    rw [Pseudo.smuggleIf_of_ok e short hrule, Eval.replay_bind, he.settle]
    rfl
  · rename_i problem hrule
    rw [Pseudo.smuggleIf_of_error e short hrule, Eval.replay_fail]

/-- The built-in pseudo-selectors act, name by name, as those of the standard registry do. -/
lemma forall₂_builtins :
    List.Forall₂ (fun entry' entry => entry'.1 = entry.1 ∧ Realizes entry'.2 @entry.2) builtins
      Pseudo.builtins := by
  refine .cons ⟨rfl, realizes_ofText _⟩ (.cons ⟨rfl, realizes_ofText _⟩ ?_)
  refine .cons ⟨rfl, realizes_ofText _⟩ (.cons ⟨rfl, realizes_ofText _⟩ ?_)
  refine .cons ⟨rfl, realizes_ofText _⟩ (.cons ⟨rfl, realizes_self⟩ ?_)
  exact .cons ⟨rfl, realizes_closest⟩ (.cons ⟨rfl, realizes_smuggleIf⟩ .nil)

end LivePseudo

namespace Table

variable {κ α β : Type} [DecidableEq κ]

/-- In a table without repeated keys a key has the value of its pair. -/
lemma get?_eq_some_iff {t : Table κ α} (h : (keys t).Nodup) {key : κ} {value : α} :
    get? key t = some value ↔ (key, value) ∈ t := by
  induction t with
  | nil => simp [get?]
  | cons entry t ih =>
    obtain ⟨k, v⟩ := entry
    obtain ⟨hk, ht⟩ := List.nodup_cons.1 h
    by_cases hkey : key = k
    · subst hkey
      have hmem : (key, value) ∉ t := fun hmem => hk (List.mem_map.2 ⟨_, hmem, rfl⟩)
      simp [get?, hmem, eq_comm]
    · rw [get?, if_neg hkey, ih ht]
      simp [hkey]

/-- If the values of two tables are related key by key, so is what the keys have. -/
lemma rel_get? {R : α → β → Prop} {t : Table κ α} {t' : Table κ β}
    (h : List.Forall₂ (fun entry entry' => entry.1 = entry'.1 ∧ R entry.2 entry'.2) t t')
    (key : κ) : Option.Rel R (get? key t) (get? key t') := by
  induction h with
  | nil => exact .none
  | @cons entry entry' t t' hentry _ ih =>
    obtain ⟨k, v⟩ := entry
    obtain ⟨k', v'⟩ := entry'
    obtain ⟨rfl, hv⟩ := hentry
    by_cases hkey : key = k
    · rw [get?, get?, if_pos hkey, if_pos hkey]
      exact .some hv
    · rw [get?, get?, if_neg hkey, if_neg hkey]
      exact ih

end Table

namespace LiveEngine

/-- **The built-in pseudo-selectors** act as those of the standard registry do. -/
theorem realizes_standard (t : Template) : (standard t).Realizes ⟨t, .standard⟩ where
  template := rfl
  pseudos name := by
    have hnames : (Table.keys Pseudo.builtins).Nodup := by decide
    have hfind : Registry.standard.find? name = Table.get? name Pseudo.builtins := by
      ext p
      exact Registry.find?_standard_eq_some_iff.trans (Table.get?_eq_some_iff hnames).symm
    have hget := Table.rel_get? LivePseudo.forall₂_builtins name
    exact hfind ▸ hget

/-! ## The engine -/

variable {q' : LiveEngine} {q : Engine}

lemma gate_eq_hasPseudo (h : q'.Realizes q) (s : Text) : q'.template.gate s = q.hasPseudo s := by
  rw [h.template]
  rfl

lemma unknownNotices_eq (h : q'.Realizes q) (s : Text) :
    q'.unknownNotices s = q.unknownNotices s := by
  unfold unknownNotices Engine.unknownNotices
  rw [h.template]
  refine List.filterMap_congr fun o _ => ?_
  have hname := h.pseudos o.name
  generalize Table.get? o.name q'.pseudos = p', q.registry.find? o.name = p at hname ⊢
  cases hname <;> rfl

/-- The calls of a selector are in both engines the same, one by one. -/
lemma forall₂_calls (h : q'.Realizes q) (s : Text) :
    List.Forall₂ LiveCall.Realizes (q'.calls s) (q.calls s) := by
  obtain ⟨t, pseudos⟩ := q'
  obtain ⟨t', registry⟩ := q
  obtain ⟨rfl, hpseudos⟩ := h
  unfold calls Engine.calls
  refine List.rel_filterMap (R := Eq) ?_ (List.forall₂_same.2 fun _ _ => rfl)
  rintro ⟨o, ho⟩ _ rfl
  have hname := hpseudos o.name
  dsimp only at hname ⊢
  generalize Table.get? o.name pseudos = p', registry.find? o.name = p at hname ⊢
  cases hname with
  | none => exact .none
  | some hp => exact .some ⟨rfl, hp⟩

/-- Testing an element performs what testing it collects. -/
lemma holdAll_eq_replay {limit : Nat} {e' : LiveElement limit} {e : Element limit}
    (he : e'.Realizes e) {cs' : List (LiveCall limit)} {cs : List (Call limit)}
    (hcs : List.Forall₂ LiveCall.Realizes cs' cs) :
    holdAll e' cs' = (Engine.holdAll e cs).replay := by
  induction hcs with
  | nil => rfl
  | @cons c' c cs' cs hc _ ih =>
    obtain ⟨p', argument, short⟩ := c'
    obtain ⟨p, argument', short'⟩ := c
    obtain ⟨rfl, hp⟩ := hc
    rw [holdAll, Engine.holdAll_cons, Eval.replay_bind, ← hp he argument short]
    refine bind_congr fun b => ?_
    cases b with
    | true => exact ih
    | false => rfl

/-- Assigning what a rule says performs the assignment that is collected otherwise. -/
lemma settleLive_eq_replay (r : Rule) (n : NodeId) (found : Bool) :
    r.settleLive n found = (r.settle n found).replay := by
  unfold Rule.settleLive Rule.settle
  cases r.branch found with
  | none => rfl
  | some a => rfl

/-- The view of a node acts as the one that collects effects, if the nested queries do. -/
lemma realizes_ofNode (d : Document) (n : NodeId) {limit : Nat}
    {nested' : (s : Text) → s.length < limit → Action (Option NodeId)}
    {nested : (s : Text) → s.length < limit → Eval (Option NodeId)}
    (h : ∀ s hs, nested' s hs = (nested s hs).replay) :
    (LiveElement.ofNode d n limit nested').Realizes (Element.ofNode d n limit nested) where
  text := rfl
  satisfies s := (Eval.replay_ofNative _).symm
  hasClosest s := by
    simp only [LiveElement.ofNode, Element.ofNode, Eval.replay_bind, Eval.replay_ofNative,
      Eval.replay_pure]
  hasMatch s hs := by
    simp only [LiveElement.ofNode, Element.ofNode, Eval.replay_bind, Eval.replay_pure, h s hs]
  settle r hr := by
    simp only [LiveElement.ofNode, Element.ofNode, Eval.replay_bind, h r.selector hr,
      settleLive_eq_replay]
  assign name value := rfl

/-- Testing a candidate performs what testing it collects, if the nested queries do. -/
lemma keeps_eq_replay (h : q'.Realizes q) (d : Document) (s : Text) (n : NodeId)
    {nested : (u : Text) → u.length < s.length → Action (Option NodeId)}
    (hnested : ∀ u hu, nested u hu = (q.findFirst d n u).replay) :
    keeps s n (LiveElement.ofNode d n s.length nested) (q'.calls s) =
      (q.retains d s n).replay := by
  rw [keeps, Engine.retains, Engine.keeps, Eval.replay_excuse]
  have hview : (LiveElement.ofNode d n s.length nested).Realizes (q.element d n s.length) :=
    realizes_ofNode d n hnested
  rw [holdAll_eq_replay hview (forall₂_calls h s)]

/-- The three steps of a search are performed one after the other. -/
lemma search_eq_replay {α : Type} (h : q'.Realizes q) (d : Document) (root : NodeId) (s : Text)
    (look : List NodeId → Eval α) :
    (do
      Action.giveAll (q'.unknownNotices s)
      let nodes ← candidates d root (q'.template.base s)
      (look nodes).replay) = (q.search d root s look).replay := by
  have hcandidates : candidates d root (q'.template.base s) =
      (Engine.candidates d root (q.template.base s)).replay := by
    rw [h.template, candidates, Engine.candidates]
    split
    · rfl
    · rw [Eval.replay_ofNative]
  rw [Engine.search, ← Engine.candidates_eq, Eval.replay_bind, Eval.replay_notices,
    unknownNotices_eq h, hcandidates]
  exact bind_congr fun _ => (Eval.replay_bind _ _).symm

/-- **The query for the first node** performs what it collects.

**Proof sketch.** By induction on the length of the selector. Queries below a candidate are for
shorter selectors, so that the view of the candidate acts as the one that collects effects
(`realizes_ofNode`); hence testing a candidate does (`keeps_eq_replay`), and with it the search
among all of them. -/
theorem findFirst_eq_replay (h : q'.Realizes q) (d : Document) (root : NodeId) (s : Text) :
    q'.findFirst d root s = (q.findFirst d root s).replay := by
  induction hlength : s.length using Nat.strong_induction_on generalizing root s with
  | _ length ih =>
    subst hlength
    rw [findFirst, gate_eq_hasPseudo h]
    by_cases hgate : q.hasPseudo s = true
    · rw [if_pos hgate, Engine.findFirst_eq_search hgate, ← search_eq_replay h]
      refine bind_congr fun _ => bind_congr fun nodes => ?_
      rw [Eval.replay_findFirst]
      congr 1
      funext n
      exact keeps_eq_replay h d s n fun u hu => ih u.length hu n u rfl
    · rw [if_neg hgate, Engine.findFirst_of_native hgate, Eval.replay_ofNative]

/-- **The query for all nodes** performs what it collects. -/
theorem findAll_eq_replay (h : q'.Realizes q) (d : Document) (root : NodeId) (s : Text) :
    q'.findAll d root s = (q.findAll d root s).replay := by
  rw [findAll, gate_eq_hasPseudo h]
  by_cases hgate : q.hasPseudo s = true
  · rw [if_pos hgate, Engine.findAll_eq_search hgate, ← search_eq_replay h]
    refine bind_congr fun _ => bind_congr fun nodes => ?_
    rw [Eval.replay_keep]
    congr 1
    funext n
    exact keeps_eq_replay h d s n fun u _ => findFirst_eq_replay h d n u
  · rw [if_neg hgate, Engine.findAll_of_native hgate, Eval.replay_ofNative]

/-! ## Alternatives and rules -/

/-- The first alternative that finds anything ends the query in both engines. -/
theorem query_eq_replay (h : q'.Realizes q) (d : Document) (root : NodeId)
    (alternatives : Alternatives) :
    q'.query d root alternatives = (q.query d root alternatives).replay := by
  induction alternatives with
  | nil => rfl
  | cons s alternatives ih =>
    rw [query, Engine.query, Eval.replay_bind, findFirst_eq_replay h]
    refine bind_congr fun found => ?_
    cases found with
    | some n => rfl
    | none => exact ih

lemma contribution_eq_replay (h : q'.Realizes q) (d : Document) (root : NodeId) (greedy : Bool)
    (s : Text) : q'.contribution d root greedy s = (q.contribution d root greedy s).replay := by
  cases greedy with
  | true => exact findAll_eq_replay h d root s
  | false =>
    simp only [contribution, Engine.contribution, if_neg Bool.false_ne_true, Eval.replay_bind,
      Eval.replay_pure, findFirst_eq_replay h]

/-- Every alternative contributes in both engines, and finds the store as the alternatives before
it have left it. -/
theorem collect_eq_replay (h : q'.Realizes q) (d : Document) (root : NodeId) (greedy : Bool)
    (seen : List NodeId) (alternatives : Alternatives) :
    q'.collect d root greedy seen alternatives =
      (q.collect d root greedy seen alternatives).replay := by
  induction alternatives generalizing seen with
  | nil => rfl
  | cons s alternatives ih =>
    rw [collect, Engine.collect, Eval.replay_bind, contribution_eq_replay h]
    refine bind_congr fun nodes => ?_
    simp only [ih, Eval.replay_bind, Eval.replay_pure]

/-- A rule is applied to the store in which its query has ended. -/
theorem settle_eq_replay (h : q'.Realizes q) (d : Document) (n : NodeId) (r : Rule) :
    q'.settle d n r = (q.settle d n r).replay := by
  rw [settle, Engine.settle, Eval.replay_bind, findFirst_eq_replay h]
  exact bind_congr fun found => settleLive_eq_replay r n found.isSome

end LiveEngine

end TreeQuery
