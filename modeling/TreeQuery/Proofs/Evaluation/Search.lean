import Mathlib.Tactic.Lemma
import TreeQuery.Evaluation

set_option relaxedAutoImplicit false
set_option autoImplicit false

/-!
# Searching a list with tests that have effects

All members of a list that pass a test, and the first one, after which no further test is made.
In general the two leave different effects. They agree if the tests have no effects at all, and
also if no test is passed, for then neither search ends early.

## Main results

* `TreeQuery.Eval.keep_of_ok`, `TreeQuery.Eval.findFirst_of_ok` — tests without effects.
* `TreeQuery.Eval.keep_of_no` — tests that all say no.
* `TreeQuery.Eval.findFirst_eq_head?_keep` — the first member found is the head of all of them,
  with the same effects.
-/

namespace TreeQuery.Eval

variable {α β : Type}

/-! ## Answers and effects of composed evaluations -/

lemma bind_of_ok {x : Eval α} {a : α} (h : x.result = .ok a) (f : α → Eval β) :
    x >>= f = ⟨(f a).result, x.effects ++ (f a).effects⟩ := by
  rw [bind_eq, andThen, h]

lemma bind_of_error {x : Eval α} {e : QueryError} (h : x.result = .error e) (f : α → Eval β) :
    x >>= f = ⟨.error e, x.effects⟩ := by
  rw [bind_eq, andThen, h]

@[simp] lemma ok_bind (a : α) (f : α → Eval β) : ok a >>= f = f a := rfl

lemma map_eq (f : α → β) (x : Eval α) : f <$> x = ⟨x.result.map f, x.effects⟩ := by
  rw [← bind_pure_comp]
  cases h : x.result with
  | ok a =>
    rw [bind_of_ok h]
    simp [pure_eq, ok, Except.map]
  | error e =>
    rw [bind_of_error h]
    rfl

@[simp] lemma result_map (f : α → β) (x : Eval α) : (f <$> x).result = x.result.map f := by
  rw [map_eq]

@[simp] lemma effects_map (f : α → β) (x : Eval α) : (f <$> x).effects = x.effects := by
  rw [map_eq]

@[simp] lemma map_ok (f : α → β) (a : α) : f <$> ok a = ok (f a) := rfl

/-- An answer that is made of another one is no error exactly if the other one is none. -/
lemma map_eq_error_iff {f : α → β} {x : Except QueryError α} {e : QueryError} :
    x.map f = .error e ↔ x = .error e := by
  cases x <;> simp [Except.map]

/-- An answer that is made of another one is there exactly if the other one is. -/
lemma map_eq_ok_iff {f : α → β} {x : Except QueryError α} {b : β} :
    x.map f = .ok b ↔ ∃ a, x = .ok a ∧ f a = b := by
  cases x <;> simp [Except.map]

@[simp] lemma effects_ofNative (x : Except Native.InvalidSelector α) :
    (ofNative x).effects = [] := by
  cases x <;> rfl

/-! ## Tests without effects -/

section Search

variable {test : α → Eval Bool} {l : List α}

lemma keep_cons (test : α → Eval Bool) (a : α) (l : List α) :
    keep test (a :: l) =
      test a >>= fun b => keep test l >>= fun r => ok (if b then a :: r else r) := rfl

lemma findFirst_cons (test : α → Eval Bool) (a : α) (l : List α) :
    findFirst test (a :: l) =
      test a >>= fun b => if b then ok (some a) else findFirst test l := rfl

/-- Tests without effects keep what they hold of. -/
lemma keep_of_ok {holds : α → Bool} (h : ∀ a ∈ l, test a = ok (holds a)) :
    keep test l = ok (l.filter holds) := by
  induction l with
  | nil => rfl
  | cons a l ih =>
    obtain ⟨ha, hl⟩ := List.forall_mem_cons.1 h
    rw [keep_cons, ha, ih hl, ok_bind, ok_bind, List.filter_cons]

/-- Tests without effects find the first member they hold of. -/
lemma findFirst_of_ok {holds : α → Bool} (h : ∀ a ∈ l, test a = ok (holds a)) :
    findFirst test l = ok (l.find? holds) := by
  induction l with
  | nil => rfl
  | cons a l ih =>
    obtain ⟨ha, hl⟩ := List.forall_mem_cons.1 h
    rw [findFirst_cons, ha, ok_bind, List.find?_cons]
    cases holds a with
    | true => rfl
    | false => exact ih hl

/-! ## Tests that are not passed -/

/-- Tests that all say no keep nothing, and every one of them is made. -/
lemma keep_of_no (h : ∀ a ∈ l, (test a).result = .ok false) :
    keep test l = ⟨.ok [], l.flatMap fun a => (test a).effects⟩ := by
  induction l with
  | nil => rfl
  | cons a l ih =>
    obtain ⟨ha, hl⟩ := List.forall_mem_cons.1 h
    rw [keep_cons, bind_of_ok ha, ih hl, bind_of_ok rfl, List.flatMap_cons]
    simp [ok]

/-- If no test is passed, the search for the first member makes the same tests as the search for
all of them. -/
lemma findFirst_eq_head?_keep_of_ne (h : ∀ a ∈ l, (test a).result ≠ .ok true) :
    findFirst test l = List.head? <$> keep test l := by
  induction l with
  | nil => rfl
  | cons a l ih =>
    obtain ⟨ha, hl⟩ := List.forall_mem_cons.1 h
    rw [findFirst_cons, keep_cons]
    cases hr : (test a).result with
    | error e =>
      rw [bind_of_error hr, bind_of_error hr]
      rfl
    | ok b =>
      cases b with
      | true => exact absurd hr ha
      | false =>
        rw [bind_of_ok hr, bind_of_ok hr, map_eq]
        have hrest : (keep test l >>= fun r => ok (if false = true then a :: r else r)) =
            keep test l := bind_pure (keep test l)
        rw [hrest, if_neg Bool.false_ne_true, ih hl, map_eq]

/-- **The first member found is the head of all of them**, and both searches have the same
effects, if the tests have no effects at all or if none of them is passed. -/
theorem findFirst_eq_head?_keep
    (h : (∃ holds : α → Bool, ∀ a ∈ l, test a = ok (holds a)) ∨
      ∀ a ∈ l, (test a).result ≠ .ok true) :
    findFirst test l = List.head? <$> keep test l := by
  rcases h with ⟨holds, h⟩ | h
  · rw [findFirst_of_ok h, keep_of_ok h, map_ok, List.head?_filter]
  · exact findFirst_eq_head?_keep_of_ne h

/-- What a search for all members keeps are members of the list, in their order. -/
lemma sublist_of_keep {l' : List α} (h : (keep test l).result = .ok l') : l'.Sublist l := by
  induction l generalizing l' with
  | nil =>
    obtain rfl : [] = l' := Except.ok.inj h
    exact List.Sublist.refl []
  | cons a l ih =>
    rw [keep_cons] at h
    cases ha : (test a).result with
    | error e =>
      rw [bind_of_error ha] at h
      simp at h
    | ok b =>
      cases hl : (keep test l).result with
      | error e =>
        rw [bind_of_ok ha, bind_of_error hl] at h
        simp at h
      | ok r =>
        rw [bind_of_ok ha, bind_of_ok hl] at h
        obtain rfl := Except.ok.inj h
        cases b with
        | true => exact (ih hl).cons_cons a
        | false => exact (ih hl).cons a

/-! ## Tests that do not fail -/

/-- Tests that do not fail keep what they hold of, whatever else they do. -/
lemma result_keep {holds : α → Bool} (h : ∀ a ∈ l, (test a).result = .ok (holds a)) :
    (keep test l).result = .ok (l.filter holds) := by
  induction l with
  | nil => rfl
  | cons a l ih =>
    obtain ⟨ha, hl⟩ := List.forall_mem_cons.1 h
    rw [keep_cons, bind_of_ok ha, bind_of_ok (ih hl), List.filter_cons]
    rfl

/-- A search for all members fails only if a test does. -/
lemma exists_result_keep (h : ∀ a ∈ l, ∃ b, (test a).result = .ok b) :
    ∃ l', (keep test l).result = .ok l' := by
  induction l with
  | nil => exact ⟨[], rfl⟩
  | cons a l ih =>
    obtain ⟨⟨b, hb⟩, hl⟩ := List.forall_mem_cons.1 h
    obtain ⟨l', hl'⟩ := ih hl
    rw [keep_cons, bind_of_ok hb, bind_of_ok hl']
    exact ⟨_, rfl⟩

/-- If no test fails, the first member found is the head of all of them. The effects may differ,
for the search for all of them goes on. -/
lemma result_findFirst_eq_head?_keep (h : ∀ a ∈ l, ∃ b, (test a).result = .ok b) :
    (findFirst test l).result = (keep test l).result.map List.head? := by
  induction l with
  | nil => rfl
  | cons a l ih =>
    obtain ⟨⟨b, hb⟩, hl⟩ := List.forall_mem_cons.1 h
    obtain ⟨l', hl'⟩ := exists_result_keep hl
    rw [findFirst_cons, keep_cons, bind_of_ok hb, bind_of_ok hb, bind_of_ok hl']
    cases b with
    | true => rfl
    | false =>
      have hrest : (findFirst test l).result = .ok l'.head? := by
        rw [ih hl, hl']
        rfl
      exact hrest

/-- A search for the first member fails only if a test does. -/
lemma exists_result_findFirst (h : ∀ a ∈ l, ∃ b, (test a).result = .ok b) :
    ∃ a?, (findFirst test l).result = .ok a? := by
  induction l with
  | nil => exact ⟨none, rfl⟩
  | cons a l ih =>
    obtain ⟨⟨b, hb⟩, hl⟩ := List.forall_mem_cons.1 h
    rw [findFirst_cons, bind_of_ok hb]
    cases b with
    | true => exact ⟨some a, rfl⟩
    | false => exact ih hl

end Search

/-! ## Excused failures -/

lemma exists_result_excuse (notice : QueryError → Notice) (x : Eval Bool) :
    ∃ b, (excuse notice x).result = .ok b := by
  unfold excuse
  cases x.result with
  | ok b => exact ⟨b, rfl⟩
  | error e => exact ⟨false, rfl⟩

@[simp] lemma excuse_ok (notice : QueryError → Notice) (b : Bool) :
    excuse notice (ok b) = ok b := rfl

/-- A failure is never excused with a yes, and nothing else is changed. -/
lemma result_excuse_iff {notice : QueryError → Notice} {x : Eval Bool} :
    (excuse notice x).result = .ok true ↔ x.result = .ok true := by
  unfold excuse
  cases hx : x.result with
  | ok b => simp
  | error e => simp

lemma result_excuse_ne {notice : QueryError → Notice} {x : Eval Bool}
    (h : x.result ≠ .ok true) : (excuse notice x).result ≠ .ok true :=
  mt result_excuse_iff.1 h

end TreeQuery.Eval
