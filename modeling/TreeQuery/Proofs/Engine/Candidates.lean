import TreeQuery.Engine
import TreeQuery.Proofs.Evaluation.Search
import TreeQuery.Proofs.Native.Questions
import TreeQuery.Proofs.Properties.Writes

set_option relaxedAutoImplicit false
set_option autoImplicit false

/-!
# Queries as searches among candidates

A selector with pseudo-selectors is answered in three steps: notices for the unknown names are
written, the candidates are looked up, and they are searched. Only the second step can fail, for
a candidate at which something fails is left out.

## Main definitions

* `TreeQuery.Document.targets` — the candidates for a base.
* `TreeQuery.Engine.retains` — whether a candidate is kept.
* `TreeQuery.Engine.search` — the three steps.

## Main results

* `TreeQuery.Engine.findFirst_eq_search`, `TreeQuery.Engine.findAll_eq_search` — the queries for
  one selector.
* `TreeQuery.Engine.exists_of_search_ok`, `TreeQuery.Engine.exists_of_search_error` — what the
  candidates have to do with the answer.
-/

namespace TreeQuery

/-- The candidates for a base: the root itself if the base is empty, else the elements below it
that satisfy the base. -/
def Document.targets (d : Document) (root : NodeId) (base : Text) :
    Except Native.InvalidSelector (List NodeId) :=
  if base = [] then .ok [root] else d.selectAll root base

namespace Engine

variable {α : Type} {q : Engine} {d : Document} {root : NodeId} {s : Text}

lemma candidates_eq (d : Document) (root : NodeId) (base : Text) :
    candidates d root base = Eval.ofNative (d.targets root base) := by
  unfold candidates Document.targets
  by_cases h : base = []
  · rw [if_pos h, h]
    rfl
  · rw [if_neg h, if_neg (by simpa using h)]

/-- Whether a candidate is kept, all calls of the selector being made in order until one of them
does not hold. -/
def retains (q : Engine) (d : Document) (s : Text) (n : NodeId) : Eval Bool :=
  keeps s n (q.element d n s.length) (q.calls s)

/-- What fails at a candidate leaves it out and does not end the query. -/
lemma exists_result_retains (q : Engine) (d : Document) (s : Text) (n : NodeId) :
    ∃ b, (q.retains d s n).result = .ok b :=
  Eval.exists_result_excuse _ _

/-! ## The three steps -/

/-- Writes the notices of a selector, looks up its candidates and goes on with them. -/
def search (q : Engine) (d : Document) (root : NodeId) (s : Text) (look : List NodeId → Eval α) :
    Eval α :=
  Eval.notices (q.unknownNotices s) >>= fun _ =>
    Eval.ofNative (d.targets root (q.template.base s)) >>= look

/-- The first node that a selector with pseudo-selectors finds. -/
lemma findFirst_eq_search (h : q.hasPseudo s = true) :
    q.findFirst d root s = q.search d root s (Eval.findFirst (q.retains d s)) := by
  rw [findFirst, if_pos h, search, ← candidates_eq, parse, bind_assoc]
  rfl

/-- All nodes that a selector with pseudo-selectors finds. -/
lemma findAll_eq_search (h : q.hasPseudo s = true) :
    q.findAll d root s = q.search d root s (Eval.keep (q.retains d s)) := by
  rw [findAll, if_pos h, search, ← candidates_eq, parse, bind_assoc]
  rfl

/-- The first node that a native selector finds. -/
lemma findFirst_of_native (h : ¬ q.hasPseudo s = true) :
    q.findFirst d root s = Eval.ofNative (d.selectFirst root s) := by
  rw [findFirst, if_neg h]

/-- All nodes that a native selector finds. -/
lemma findAll_of_native (h : ¬ q.hasPseudo s = true) :
    q.findAll d root s = Eval.ofNative (d.selectAll root s) := by
  rw [findAll, if_neg h]

lemma search_of_ok {ns : List NodeId} (h : d.targets root (q.template.base s) = .ok ns)
    (look : List NodeId → Eval α) :
    q.search d root s look =
      ⟨(look ns).result, (q.unknownNotices s).map .notice ++ (look ns).effects⟩ := by
  rw [search, h]
  exact Eval.bind_of_ok rfl _

lemma search_of_error {e : Native.InvalidSelector}
    (h : d.targets root (q.template.base s) = .error e) (look : List NodeId → Eval α) :
    q.search d root s look =
      ⟨.error (.invalidSelector e), (q.unknownNotices s).map .notice⟩ := by
  rw [search, h]
  refine (Eval.bind_of_ok rfl _).trans ?_
  rw [Eval.ofNative, Eval.bind_of_error rfl]
  simp [Eval.notices, Eval.fail]

/-- A search that does not fail has looked up its candidates and gone on with them. -/
lemma exists_of_search_ok {look : List NodeId → Eval α} {a : α}
    (h : (q.search d root s look).result = .ok a) :
    ∃ ns, d.targets root (q.template.base s) = .ok ns ∧ (look ns).result = .ok a := by
  cases htargets : d.targets root (q.template.base s) with
  | error e =>
    rw [search_of_error htargets] at h
    simp at h
  | ok ns =>
    rw [search_of_ok htargets] at h
    exact ⟨ns, rfl, h⟩

/-- If the third step does not fail, a search that fails has failed to look up its candidates. -/
lemma exists_of_search_error {look : List NodeId → Eval α}
    (hlook : ∀ ns, ∃ a, (look ns).result = .ok a) {error : QueryError}
    (h : (q.search d root s look).result = .error error) :
    ∃ e, d.targets root (q.template.base s) = .error e ∧ error = .invalidSelector e := by
  cases ht : d.targets root (q.template.base s) with
  | error e =>
    rw [search_of_error ht] at h
    exact ⟨e, rfl, (Except.error.inj h).symm⟩
  | ok ns =>
    obtain ⟨a, ha⟩ := hlook ns
    rw [search_of_ok ht, ha] at h
    simp at h

/-! ## Rules -/

/-- Applying a rule fails exactly as the query of the rule does. -/
lemma settle_of_error {n : NodeId} {r : Rule} {error : QueryError}
    (h : (q.findFirst d n r.selector).result = .error error) :
    q.settle d n r = ⟨.error error, (q.findFirst d n r.selector).effects⟩ := by
  rw [settle, Eval.bind_of_error h]

lemma exists_result_settle (n : NodeId) (r : Rule) (found : Bool) :
    (r.settle n found).result = .ok found := by
  unfold Rule.settle
  cases r.branch found <;> rfl

end Engine

end TreeQuery
