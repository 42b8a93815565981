import TreeQuery.Proofs.Engine.Candidates
import TreeQuery.Proofs.Pseudo.Standard

set_option relaxedAutoImplicit false
set_option autoImplicit false

/-!
# The first match and all matches

The query for the first match of a selector stops at the first candidate that is kept, and the
query for all matches goes on. With the standard registry this makes no difference to anything
that can be seen: what is written to properties, the notices and the errors are the same, and the
first match is the head of all matches. If a candidate is kept then every call of the selector
only tests, so that going on has no effects; and if some call rejects, no candidate is kept and
neither query stops early.

## Main results

* `TreeQuery.Engine.retains_tests_or_rejects` — the two kinds of selectors.
* `TreeQuery.Engine.findFirst_eq_head?_findAll` — the two queries as evaluations.
* `TreeQuery.Engine.findFirst_agrees_findAll` — the same, told by results, properties and notices.
-/

namespace TreeQuery.Engine

variable {limit : Nat} {cs : List (Call limit)} {view : NodeId → Element limit}

/-! ## All calls of a selector -/

lemma holdAll_cons (e : Element limit) (c : Call limit) (cs : List (Call limit)) :
    holdAll e (c :: cs) =
      c.pseudo e c.argument c.short >>= fun b => if b then holdAll e cs else .ok false := rfl

/-- Calls that only test are together a test. -/
lemma holdAll_of_tests (h : ∀ c ∈ cs, c.Tests view) :
    ∃ holds : NodeId → Bool, ∀ n, holdAll (view n) cs = .ok (holds n) := by
  induction cs with
  | nil => exact ⟨fun _ => true, fun _ => rfl⟩
  | cons c cs ih =>
    obtain ⟨⟨holds, hc⟩, hcs⟩ := List.forall_mem_cons.1 h
    obtain ⟨holdsRest, hrest⟩ := ih hcs
    refine ⟨fun n => holds n && holdsRest n, fun n => ?_⟩
    rw [holdAll_cons, hc n, Eval.ok_bind, hrest n]
    cases hb : holds n <;> simp [hb]

/-- Calls hold together exactly if each of them holds. -/
lemma result_holdAll_iff {e : Element limit} :
    (holdAll e cs).result = .ok true ↔
      ∀ c ∈ cs, (c.pseudo e c.argument c.short).result = .ok true := by
  induction cs with
  | nil => simp [holdAll, Eval.pure_eq, Eval.ok]
  | cons c cs ih =>
    rw [holdAll_cons, List.forall_mem_cons, ← ih]
    cases hr : (c.pseudo e c.argument c.short).result with
    | error e => simp [Eval.bind_of_error hr]
    | ok b =>
      rw [Eval.bind_of_ok hr]
      cases b <;> simp [Eval.ok]

/-- Calls do not all hold if one of them rejects. -/
lemma result_holdAll_ne {c : Call limit} (hc : c ∈ cs) (h : c.Rejects view) (n : NodeId) :
    (holdAll (view n) cs).result ≠ .ok true :=
  fun hall => h n (result_holdAll_iff.1 hall c hc)

/-- **A selector tests or rejects**, like each of its calls: either no candidate has effects, or
no candidate is kept.

**Proof sketch.** If all calls only test, so do they together. Otherwise some call rejects, and
with it the selector does; a failure on the way is turned into a no. -/
theorem retains_tests_or_rejects (t : Template) (d : Document) (s : Text) :
    (∃ holds : NodeId → Bool, ∀ n, (Engine.mk t .standard).retains d s n = .ok (holds n)) ∨
      ∀ n, ((Engine.mk t .standard).retains d s n).result ≠ .ok true := by
  by_cases h : ∀ c ∈ (Engine.mk t .standard).calls s,
      c.Tests fun n => (Engine.mk t .standard).element d n s.length
  · obtain ⟨holds, hholds⟩ := holdAll_of_tests h
    refine .inl ⟨holds, fun n => ?_⟩
    rw [retains, keeps, hholds n, Eval.excuse_ok]
  · push Not at h
    obtain ⟨c, hc, hnot⟩ := h
    have hrejects := (tests_or_rejects t d hc).resolve_left hnot
    exact .inr fun n => Eval.result_excuse_ne (result_holdAll_ne hc hrejects n)

/-! ## The two queries -/

lemma map_search {α β : Type} (q : Engine) (d : Document) (root : NodeId) (s : Text) (f : α → β)
    (look : List NodeId → Eval α) :
    f <$> q.search d root s look = q.search d root s fun ns => f <$> look ns := by
  simp only [search, map_bind]

/-- **The first match is the head of all matches**, as evaluations: with the standard registry
results, errors and all effects of the two queries are the same. -/
theorem findFirst_eq_head?_findAll (t : Template) (d : Document) (root : NodeId) (s : Text) :
    (Engine.mk t .standard).findFirst d root s =
      List.head? <$> (Engine.mk t .standard).findAll d root s := by
  by_cases h : (Engine.mk t .standard).hasPseudo s = true
  · rw [findFirst_eq_search h, findAll_eq_search h, map_search]
    congr 1
    funext ns
    refine Eval.findFirst_eq_head?_keep ?_
    rcases retains_tests_or_rejects t d s with ⟨holds, hholds⟩ | hrejects
    · exact .inl ⟨holds, fun n _ => hholds n⟩
    · exact .inr fun n _ => hrejects n
  · rw [findFirst_of_native h, findAll_of_native h,
      Document.selectFirst_eq_head?_selectAll]
    cases d.selectAll root s <;> rfl

/-- **The query for the first match agrees with the query for all matches**, for every template,
document, root and selector and whatever the properties were. One fails if and only if the other
does, with the same error; otherwise the first match is the head of all matches. Both leave the
same properties and the same notices in the same order, although the first one stops early. -/
theorem findFirst_agrees_findAll (t : Template) (d : Document) (p : Properties) (root : NodeId)
    (s : Text) :
    let q : Engine := ⟨t, .standard⟩
    (∀ e, (q.findFirst d root s).result = .error e ↔ (q.findAll d root s).result = .error e) ∧
      (q.findFirst d root s).result = (q.findAll d root s).result.map List.head? ∧
      p.after (q.findFirst d root s).effects = p.after (q.findAll d root s).effects ∧
      noticesOf (q.findFirst d root s).effects = noticesOf (q.findAll d root s).effects := by
  intro q
  have h := findFirst_eq_head?_findAll t d root s
  rw [h, Eval.result_map, Eval.effects_map]
  exact ⟨fun e => Eval.map_eq_error_iff, rfl, rfl, rfl⟩

end TreeQuery.Engine
