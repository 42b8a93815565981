import Mathlib.Logic.Function.Iterate
import TreeQuery.Proofs.Engine.FirstMatch
import TreeQuery.Proofs.Engine.Repetition

set_option relaxedAutoImplicit false
set_option autoImplicit false

/-!
# Queries inside queries

Applying a rule starts a query for the selector of the rule, which may hold rules again. That this
comes to an end has one reason: a rule is written in a data text, the data text is written as the
argument of an occurrence, and the occurrence is written in a selector; on the way outwards the
text grows with every step. So the selectors of nested queries get shorter and shorter.

To say that nothing else is behind an answer, one level of evaluation is looked at by itself: the
nested queries are answered by any function at all, without regard to lengths. With the standard
registry what that function answers to selectors that are not nested in the evaluated one makes no
difference, and what it answers below as many levels as the selector has characters makes none
either.

## Main definitions

* `TreeQuery.Template.Nests` — a selector is that of a rule in an occurrence of another selector.
* `TreeQuery.Engine.firstWith`, `TreeQuery.Engine.allWith` — one level of evaluation.
* `TreeQuery.Operation.evaluateWith` — one level of an operation.
* `TreeQuery.Operation.Starts` — an operation starts a nested query.

## Main results

* `TreeQuery.Template.Nests.length_lt`, `TreeQuery.Template.wellFounded_nests` — nested selectors
  are shorter.
* `TreeQuery.Engine.firstWith_congr` — one level depends on nested selectors only.
* `TreeQuery.Engine.firstWith_iterate` — finitely many levels are enough.
* `TreeQuery.Engine.firstWith_eq_iff` — the recursion equation has one solution.
* `TreeQuery.Operation.evaluation_ends` — evaluation comes to an end.
-/

namespace TreeQuery

/-! ## Nested selectors -/

namespace Template

/-- The selector `u` is nested in `s`: an occurrence in `s` applies a rule with this selector. -/
def Nests (t : Template) (s u : Text) : Prop :=
  ∃ o ∈ t.occurrences s, o.name = "smuggleIf".toList ∧
    ∃ r, Rule.ofJson (t.argument o) = .ok r ∧ r.selector = u

variable {t : Template} {s u : Text}

/-- **A nested selector is shorter** than the argument that holds it, and this is shorter than the
selector around it. -/
theorem Nests.length_lt (h : t.Nests s u) : u.length < s.length := by
  obtain ⟨o, ho, -, r, hr, rfl⟩ := h
  calc r.selector.length
      < (t.argument o).length := Rule.length_selector_lt hr
    _ < s.length := length_argument_lt ho

/-- There is no endless chain of nested selectors. -/
theorem wellFounded_nests (t : Template) : WellFounded fun u s => t.Nests s u :=
  Subrelation.wf (fun h => h.length_lt) (measure List.length).wf

end Template

namespace Engine

open Template

/-! ## One level of evaluation -/

/-- Answers to queries for the first node that a selector finds below a node. -/
abbrev Answers := NodeId → Text → Eval (Option NodeId)

/-- Whether a candidate is kept, nested queries being answered by `answers`. -/
def retainsWith (q : Engine) (d : Document) (answers : Answers) (s : Text) (n : NodeId) :
    Eval Bool :=
  keeps s n (Element.ofNode d n s.length fun u _ => answers n u) (q.calls s)

/-- The query for the first node, nested queries being answered by `answers`. -/
def firstWith (q : Engine) (d : Document) (answers : Answers) : Answers := fun root s =>
  if q.hasPseudo s then q.search d root s (Eval.findFirst (q.retainsWith d answers s))
  else Eval.ofNative (d.selectFirst root s)

/-- The query for all nodes, nested queries being answered by `answers`. -/
def allWith (q : Engine) (d : Document) (answers : Answers) (root : NodeId) (s : Text) :
    Eval (List NodeId) :=
  if q.hasPseudo s then q.search d root s (Eval.keep (q.retainsWith d answers s))
  else Eval.ofNative (d.selectAll root s)

/-- The engine answers nested queries by itself. -/
lemma firstWith_findFirst (q : Engine) (d : Document) :
    q.firstWith d (q.findFirst d) = q.findFirst d := by
  funext root s
  unfold firstWith
  split
  · rename_i h
    exact (findFirst_eq_search h).symm
  · rename_i h
    exact (findFirst_of_native h).symm

lemma allWith_findFirst (q : Engine) (d : Document) :
    q.allWith d (q.findFirst d) = q.findAll d := by
  funext root s
  unfold allWith
  split
  · rename_i h
    exact (findAll_eq_search h).symm
  · rename_i h
    exact (findAll_of_native h).symm

/-! ## What one level depends on -/

section Congruence

variable {t : Template} {d : Document} {s : Text} {answers answers' : Answers}

/-- Applying a rule asks for the selector of the rule. -/
lemma smuggleIf_congr (d : Document) (n : NodeId) {limit : Nat} (argument : Text)
    (short : argument.length < limit)
    (h : ∀ r, Rule.ofJson argument = .ok r → answers n r.selector = answers' n r.selector) :
    Pseudo.smuggleIf (Element.ofNode d n limit fun u _ => answers n u) argument short =
      Pseudo.smuggleIf (Element.ofNode d n limit fun u _ => answers' n u) argument short := by
  cases hrule : Rule.ofJson argument with
  | error problem =>
    rw [Pseudo.smuggleIf_of_error _ short hrule, Pseudo.smuggleIf_of_error _ short hrule]
  | ok r =>
    rw [Pseudo.smuggleIf_of_ok _ short hrule, Pseudo.smuggleIf_of_ok _ short hrule]
    simp only [Element.ofNode, h r hrule]

/-- A built-in pseudo-selector asks no nested query, unless it is the one that applies a rule, and
this asks for the selector of the rule. -/
lemma builtin_congr (d : Document) (n : NodeId) {limit : Nat} :
    ∀ entry ∈ Pseudo.builtins, ∀ (argument : Text) (short : argument.length < limit),
      (entry.1 = "smuggleIf".toList → ∀ r, Rule.ofJson argument = .ok r →
        answers n r.selector = answers' n r.selector) →
      entry.2 (Element.ofNode d n limit fun u _ => answers n u) argument short =
        entry.2 (Element.ofNode d n limit fun u _ => answers' n u) argument short := by
  refine Pseudo.forall_mem_builtins
    (P := fun name p => ∀ (argument : Text) (short : argument.length < limit),
      (name = "smuggleIf".toList → ∀ r, Rule.ofJson argument = .ok r →
        answers n r.selector = answers' n r.selector) →
      p (Element.ofNode d n limit fun u _ => answers n u) argument short =
        p (Element.ofNode d n limit fun u _ => answers' n u) argument short)
    ?ofText ?self ?closest ?smuggleIf
  case ofText => exact fun _ _ _ _ _ => rfl
  case self => exact fun _ _ _ => rfl
  case closest => exact fun _ _ _ => rfl
  case smuggleIf => exact fun argument short h => smuggleIf_congr d n argument short (h rfl)

/-- Calls that say the same one by one say the same together. -/
lemma holdAll_congr {limit : Nat} {e e' : Element limit} {cs : List (Call limit)}
    (h : ∀ c ∈ cs, c.pseudo e c.argument c.short = c.pseudo e' c.argument c.short) :
    holdAll e cs = holdAll e' cs := by
  induction cs with
  | nil => rfl
  | cons c cs ih =>
    obtain ⟨hc, hcs⟩ := List.forall_mem_cons.1 h
    rw [holdAll_cons, holdAll_cons, hc, ih hcs]

/-- If two ways of answering agree on nested selectors, the same candidates are kept. -/
lemma retainsWith_congr (h : ∀ n u, t.Nests s u → answers n u = answers' n u) :
    (Engine.mk t .standard).retainsWith d answers s =
      (Engine.mk t .standard).retainsWith d answers' s := by
  funext n
  unfold retainsWith keeps
  rw [holdAll_congr fun c hc => ?_]
  obtain ⟨o, ho, hargument, hbuiltin⟩ := exists_occurrence_of_mem_calls hc
  refine builtin_congr d n _ hbuiltin c.argument c.short fun hname r hr => h n r.selector ?_
  exact ⟨o, ho, hname, r, hargument ▸ hr, rfl⟩

/-- **One level of evaluation depends on nested selectors only.** -/
lemma firstWith_congr (h : ∀ n u, t.Nests s u → answers n u = answers' n u) (root : NodeId) :
    (Engine.mk t .standard).firstWith d answers root s =
      (Engine.mk t .standard).firstWith d answers' root s := by
  rw [firstWith, firstWith, retainsWith_congr h]

lemma allWith_congr (h : ∀ n u, t.Nests s u → answers n u = answers' n u) (root : NodeId) :
    (Engine.mk t .standard).allWith d answers root s =
      (Engine.mk t .standard).allWith d answers' root s := by
  rw [allWith, allWith, retainsWith_congr h]

/-- **Finitely many levels are enough**, as many as the selector has characters, whatever is
answered below them.

**Proof sketch.** By induction on the number of levels. The selectors nested in `s` are shorter
than `s`, so that one level less is enough for them; and one level of evaluation depends on these
only. -/
theorem firstWith_iterate (t : Template) (d : Document) (answers : Answers) {k : Nat} {s : Text}
    (hs : s.length ≤ k) (root : NodeId) :
    (Engine.mk t .standard).firstWith d (((Engine.mk t .standard).firstWith d)^[k] answers)
      root s = (Engine.mk t .standard).findFirst d root s := by
  rw [← firstWith_findFirst]
  induction k generalizing root s with
  | zero =>
    -- Nothing is nested in the empty selector.
    refine firstWith_congr (fun n u hu => ?_) root
    have hlt : u.length < s.length := hu.length_lt
    omega
  | succ k ih =>
    refine firstWith_congr (fun n u hu => ?_) root
    have hlt : u.length < s.length := hu.length_lt
    rw [Function.iterate_succ_apply', ← firstWith_findFirst]
    exact ih (by omega) n

/-- The equation for one level has one solution, the query for the first node. -/
theorem firstWith_eq_iff (t : Template) (d : Document) (answers : Answers) :
    (Engine.mk t .standard).firstWith d answers = answers ↔
      answers = (Engine.mk t .standard).findFirst d := by
  refine ⟨fun h => ?_, fun h => h ▸ firstWith_findFirst _ d⟩
  funext root s
  have hlevels := firstWith_iterate t d answers (Nat.le_refl s.length) root
  rwa [Function.iterate_fixed h, h] at hlevels

end Congruence

/-! ## Alternatives -/

/-- The first node of the first alternative that finds anything, for any way of finding one. -/
def queryVia (find : Text → Eval (Option NodeId)) : Alternatives → Eval (Option Match)
  | [] => pure none
  | s :: alternatives => do
    match ← find s with
    | some n => return some ⟨n, s⟩
    | none => queryVia find alternatives

/-- The contributions of alternatives, without the nodes seen before, for any contributions. -/
def collectVia (contribute : Text → Eval (List NodeId)) (seen : List NodeId) :
    Alternatives → Eval (List Match)
  | [] => pure []
  | s :: alternatives => do
    let fresh := unseen seen (← contribute s)
    let rest ← collectVia contribute (fresh ++ seen) alternatives
    return fresh.map (⟨·, s⟩) ++ rest

lemma queryVia_findFirst (q : Engine) (d : Document) (root : NodeId)
    (alternatives : Alternatives) :
    queryVia (q.findFirst d root) alternatives = q.query d root alternatives := by
  induction alternatives with
  | nil => rfl
  | cons s alternatives ih =>
    refine congrArg (q.findFirst d root s >>= ·) (funext fun found => ?_)
    cases found with
    | none => exact ih
    | some n => rfl

lemma collectVia_contribution (q : Engine) (d : Document) (root : NodeId) (greedy : Bool)
    (seen : List NodeId) (alternatives : Alternatives) :
    collectVia (q.contribution d root greedy) seen alternatives =
      q.collect d root greedy seen alternatives := by
  induction alternatives generalizing seen with
  | nil => rfl
  | cons s alternatives ih => simp only [collectVia, collect, ih]

lemma queryVia_congr {find find' : Text → Eval (Option NodeId)} {alternatives : Alternatives}
    (h : ∀ s ∈ alternatives, find s = find' s) :
    queryVia find alternatives = queryVia find' alternatives := by
  induction alternatives with
  | nil => rfl
  | cons s alternatives ih =>
    obtain ⟨hs, hrest⟩ := List.forall_mem_cons.1 h
    rw [queryVia, queryVia, hs, ih hrest]

lemma collectVia_congr {contribute contribute' : Text → Eval (List NodeId)}
    {alternatives : Alternatives} (h : ∀ s ∈ alternatives, contribute s = contribute' s)
    (seen : List NodeId) :
    collectVia contribute seen alternatives = collectVia contribute' seen alternatives := by
  induction alternatives generalizing seen with
  | nil => rfl
  | cons s alternatives ih =>
    obtain ⟨hs, hrest⟩ := List.forall_mem_cons.1 h
    simp only [collectVia, hs, ih hrest]

/-- What an alternative contributes, nested queries being answered by `answers`. -/
def contributionWith (q : Engine) (d : Document) (answers : Answers) (root : NodeId)
    (greedy : Bool) (s : Text) : Eval (List NodeId) :=
  if greedy then q.allWith d answers root s
  else do return (← q.firstWith d answers root s).toList

lemma contributionWith_findFirst (q : Engine) (d : Document) (root : NodeId) (greedy : Bool) :
    q.contributionWith d (q.findFirst d) root greedy = q.contribution d root greedy := by
  funext s
  rw [contributionWith, contribution, allWith_findFirst, firstWith_findFirst]

end Engine

/-! ## One level of an operation -/

namespace Operation

open Engine

/-- The selectors that an operation is about. -/
def selectors : Operation → List Text
  | findFirst _ s => [s]
  | findAll _ s => [s]
  | query _ alternatives => alternatives
  | queryAll _ alternatives _ => alternatives
  | settle _ r => [r.selector]

/-- An operation as an evaluation, the queries nested in its selectors being answered by
`answers`. -/
def evaluateWith (q : Engine) (d : Document) (answers : Answers) : (o : Operation) → Eval o.Result
  | findFirst root s => q.firstWith d answers root s
  | findAll root s => q.allWith d answers root s
  | query root alternatives => queryVia (q.firstWith d answers root) alternatives
  | queryAll root alternatives greedy =>
    collectVia (q.contributionWith d answers root greedy) [] alternatives
  | settle n r => do r.settle n (← q.firstWith d answers n r.selector).isSome

/-- An operation starts a query for `u` below the node `n`: what is answered there shows in what
the operation does. Since an answer may be any error with any effects, no query that is started
goes unnoticed. -/
def Starts (q : Engine) (d : Document) (o : Operation) (n : NodeId) (u : Text) : Prop :=
  ∃ answers answers' : Answers, (∀ m v, (m, v) ≠ (n, u) → answers m v = answers' m v) ∧
    o.evaluateWith q d answers ≠ o.evaluateWith q d answers'

lemma evaluateWith_findFirst (q : Engine) (d : Document) (o : Operation) :
    o.evaluateWith q d (q.findFirst d) = o.evaluate q d := by
  cases o with
  | findFirst root s => exact congrFun (congrFun (firstWith_findFirst q d) root) s
  | findAll root s => exact congrFun (congrFun (allWith_findFirst q d) root) s
  | query root alternatives =>
    change queryVia (q.firstWith d (q.findFirst d) root) alternatives = _
    rw [firstWith_findFirst]
    exact queryVia_findFirst q d root alternatives
  | queryAll root alternatives greedy =>
    change collectVia (q.contributionWith d (q.findFirst d) root greedy) [] alternatives = _
    rw [contributionWith_findFirst]
    exact collectVia_contribution q d root greedy [] alternatives
  | settle n r =>
    change (q.firstWith d (q.findFirst d) n r.selector >>= fun found => r.settle n found.isSome) = _
    rw [firstWith_findFirst]
    rfl

/-- An operation depends on the answers to queries nested in its selectors only. -/
lemma evaluateWith_congr {t : Template} {d : Document} {answers answers' : Answers}
    {o : Operation}
    (h : ∀ s ∈ o.selectors, ∀ n u, t.Nests s u → answers n u = answers' n u) :
    o.evaluateWith ⟨t, .standard⟩ d answers = o.evaluateWith ⟨t, .standard⟩ d answers' := by
  cases o with
  | findFirst root s => exact firstWith_congr (h s (List.mem_singleton_self s)) root
  | findAll root s => exact allWith_congr (h s (List.mem_singleton_self s)) root
  | query root alternatives => exact queryVia_congr fun s hs => firstWith_congr (h s hs) root
  | queryAll root alternatives greedy =>
    refine collectVia_congr (fun s hs => ?_) []
    rw [contributionWith, contributionWith, allWith_congr (h s hs), firstWith_congr (h s hs)]
  | settle n r =>
    have hselector := firstWith_congr (d := d) (h r.selector (List.mem_singleton_self _)) n
    exact congrArg (· >>= fun found => r.settle n found.isSome) hselector

/-- A query that an operation starts is nested in one of its selectors. -/
lemma Starts.nests {t : Template} {d : Document} {o : Operation} {n : NodeId} {u : Text}
    (h : o.Starts ⟨t, .standard⟩ d n u) : ∃ s ∈ o.selectors, t.Nests s u := by
  obtain ⟨answers, answers', hagree, hne⟩ := h
  by_contra hnone
  push Not at hnone
  refine hne (evaluateWith_congr fun s hs m v hv => hagree m v fun heq => ?_)
  obtain rfl : v = u := congrArg Prod.snd heq
  exact hnone s hs hv

/-- As many levels as the longest selector of an operation has characters are enough for the
operation. -/
lemma evaluateWith_iterate {t : Template} {d : Document} {o : Operation} {k : Nat}
    (h : ∀ s ∈ o.selectors, s.length ≤ k) (answers : Answers) :
    o.evaluateWith ⟨t, .standard⟩ d (((Engine.mk t .standard).firstWith d)^[k] answers) =
      o.evaluate ⟨t, .standard⟩ d := by
  rw [← evaluateWith_findFirst]
  refine evaluateWith_congr fun s hs n u hu => ?_
  have hlt : u.length < k := Nat.lt_of_lt_of_le hu.length_lt (h s hs)
  obtain ⟨k, rfl⟩ : ∃ k', k = k' + 1 := ⟨k - 1, by omega⟩
  rw [Function.iterate_succ_apply']
  exact firstWith_iterate t d answers (Nat.le_of_lt_succ hlt) n

/-- **Evaluation comes to an end**, however rules are nested, for every template and document with
the standard registry. No argument is longer than the written value it is read from, a written
value is shorter than its selector, and the selector of a rule is shorter than the data text that
holds the rule; so nested selectors are shorter and do not nest for ever. An operation starts
queries for nested selectors of its own only. The equation that says how a query for the first
node is answered by nested queries has exactly one solution; with it as the answer to nested
queries one level of an operation is the operation, and so is it if as many levels are evaluated
as its longest selector has characters and anything is answered below.

**Proof sketch.** Lengths fall on the way from a selector to its occurrences, their arguments and
the selectors of the rules in them. Of the built-in pseudo-selectors one asks a nested query, for
the selector of the rule in its argument (`Engine.builtin_congr`); hence one level of an operation
depends on the answers to nested selectors only (`evaluateWith_congr`). -/
theorem evaluation_ends (t : Template) (d : Document) :
    let q : Engine := ⟨t, .standard⟩
    (∀ raw, (Template.unescape t.wrapper raw).length ≤ raw.length) ∧
      (∀ s, ∀ o ∈ t.occurrences s, o.raw.length < s.length) ∧
      (∀ text r, Rule.ofJson text = .ok r → r.selector.length < text.length) ∧
      (∀ s u, t.Nests s u → u.length < s.length) ∧
      WellFounded (fun u s => t.Nests s u) ∧
      (∀ (o : Operation) n u, o.Starts q d n u →
        ∃ s ∈ o.selectors, t.Nests s u ∧ u.length < s.length) ∧
      (∀ answers : Answers, q.firstWith d answers = answers ↔ answers = q.findFirst d) ∧
      ∀ o : Operation, o.evaluateWith q d (q.findFirst d) = o.evaluate q d ∧
        ∀ (k : Nat) (answers : Answers), (∀ s ∈ o.selectors, s.length ≤ k) →
          o.evaluateWith q d ((q.firstWith d)^[k] answers) = o.evaluate q d := by
  intro q
  refine ⟨Template.length_unescape_le t.wrapper, fun s o ho => Template.length_raw_lt ho,
    fun text r => Rule.length_selector_lt, fun s u h => h.length_lt, t.wellFounded_nests,
    ?starts, firstWith_eq_iff t d, ?levels⟩
  case starts =>
    intro o n u h
    obtain ⟨s, hs, hu⟩ := h.nests
    exact ⟨s, hs, hu, hu.length_lt⟩
  case levels =>
    intro o
    exact ⟨evaluateWith_findFirst q d o, fun k answers h => evaluateWith_iterate h answers⟩

/-- Queries are started: a rule in a selector asks for its own selector below the root, which is
the only element of a document. -/
theorem evaluation_ends_appliedRule :
    let t : Template := ⟨['!'], [], ['~']⟩
    let d : Document := ⟨#[⟨0, .element ['a'] []⟩], by decide⟩
    let rule : Text := "!smuggleIf(~[\"b\"]~)".toList
    Document.ofMarkup "<a/>".toList = .ok d ∧
      (Operation.findAll 1 rule).Starts ⟨t, .standard⟩ d 1 ['b'] ∧
      ∃ s ∈ (Operation.findAll 1 rule).selectors, t.Nests s ['b'] ∧ ['b'].length < s.length := by
  intro t d rule
  have hstarts : (Operation.findAll 1 rule).Starts ⟨t, .standard⟩ d 1 ['b'] := by
    refine ⟨fun _ _ => .ok none, fun m v =>
      if (m, v) = (1, ['b']) then .fail (.badArgument [] []) else .ok none, ?_, fun h => ?_⟩
    · exact fun m v hne => (if_neg hne).symm
    · have heffects := congrArg (fun x => x.effects.length) h
      exact absurd heffects (by decide +kernel)
  obtain ⟨-, -, -, -, -, hnests, -, -⟩ := evaluation_ends t d
  exact ⟨by decide +kernel, hstarts, hnests _ 1 ['b'] hstarts⟩

end Operation

end TreeQuery
