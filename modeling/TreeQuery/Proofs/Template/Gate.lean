import Mathlib.Tactic.Lemma
import TreeQuery.Proofs.Template.Decomposition
import TreeQuery.Proofs.Text.Trimming

set_option relaxedAutoImplicit false
set_option autoImplicit false

/-!
# Texts that pass the gate

The gate lets a text through as soon as a lead, a name of word characters, a trail and an opening
parenthesis stand somewhere in it. What comes behind the parenthesis is of no account.

## Main results

* `TreeQuery.Template.gate_eq_true_iff` — the gate is exact.
* `TreeQuery.Template.gate_append` — what passes still does behind any other text.
* `TreeQuery.Template.gate_written` — a text that holds an occurrence passes.
* `TreeQuery.Template.gate_of_not_infix` — a text without a lead does not pass.
* `TreeQuery.Template.decompose_of_gate` — a text that does not pass is a single fragment.
* `TreeQuery.Template.occurrences_ne_nil_of_gate` — when a text that passes holds an occurrence.
-/

namespace TreeQuery.Template

open Text

variable {t : Template}

/-! ## What the gate looks for -/

/-- Behind a lead the gate accepts a name, a trail and an opening parenthesis. -/
lemma opensAfterLead_name {name : Text} (hne : name ≠ []) (hword : ∀ c ∈ name, isWord c = true)
    (rest : Text) : opensAfterLead t (name ++ (t.trail ++ '(' :: rest)) = true := by
  induction name with
  | nil => exact absurd rfl hne
  | cons c name ih =>
    obtain ⟨hc, hname⟩ := List.forall_mem_cons.1 hword
    rw [List.cons_append, opensAfterLead, hc, Bool.true_and, Bool.or_eq_true]
    by_cases hnil : name = []
    · right
      have hopen : t.trail ++ '(' :: rest = t.trail ++ ['('] ++ rest := by simp
      rw [hnil, List.nil_append, hopen, after?_append]
      rfl
    · left
      exact ih hnil hname

/-- Behind a lead the gate accepts nothing else. The name may end at any word character behind
which the trail and the parenthesis stand, also where more word characters follow. -/
lemma exists_name_of_opensAfterLead {s : Text} (h : opensAfterLead t s = true) :
    ∃ name rest, name ≠ [] ∧ (∀ c ∈ name, isWord c = true) ∧
      s = name ++ (t.trail ++ '(' :: rest) := by
  induction s with
  | nil => simp [opensAfterLead] at h
  | cons c s ih =>
    rw [opensAfterLead, Bool.and_eq_true, Bool.or_eq_true] at h
    obtain ⟨hc, hs | hs⟩ := h
    · obtain ⟨name, rest, -, hword, rfl⟩ := ih hs
      exact ⟨c :: name, rest, List.cons_ne_nil c name, List.forall_mem_cons.2 ⟨hc, hword⟩, rfl⟩
    · obtain ⟨rest, hrest⟩ := Option.isSome_iff_exists.1 hs
      refine ⟨[c], rest, List.cons_ne_nil c [], List.forall_mem_singleton.2 hc, ?_⟩
      rw [after?_eq_some_iff.1 hrest]
      simp

/-- At its beginning the gate accepts a lead, a name, a trail and an opening parenthesis, and
nothing else. -/
lemma opens_iff {s : Text} : opens t s = true ↔
    ∃ name rest, name ≠ [] ∧ (∀ c ∈ name, isWord c = true) ∧
      s = t.lead ++ (name ++ (t.trail ++ '(' :: rest)) := by
  constructor
  · intro h
    unfold opens at h
    split at h
    · simp at h
    · rename_i behind hbehind
      obtain ⟨name, rest, hne, hword, rfl⟩ := exists_name_of_opensAfterLead h
      exact ⟨name, rest, hne, hword, after?_eq_some_iff.1 hbehind⟩
  · rintro ⟨name, rest, hne, hword, rfl⟩
    rw [opens, after?_append]
    exact opensAfterLead_name hne hword rest

/-- What passes the gate at its beginning passes it behind any other text. -/
lemma gate_append {s : Text} (h : opens t s = true) (f : Text) : gate t (f ++ s) = true := by
  induction f with
  | nil =>
    cases s with
    | nil =>
      -- An empty text begins with a lead only if the lead is empty, and then no name follows.
      obtain ⟨name, rest, -, -, hnil⟩ := opens_iff.1 h
      simp at hnil
    | cons c s => rw [List.nil_append, gate, h, Bool.true_or]
  | cons c f ih => rw [List.cons_append, gate, ih, Bool.or_true]

/-- What passes the gate passes it somewhere at its beginning. -/
lemma exists_opens_of_gate {s : Text} (h : gate t s = true) :
    ∃ before behind, s = before ++ behind ∧ opens t behind = true := by
  induction s with
  | nil => simp [gate] at h
  | cons c s ih =>
    rw [gate, Bool.or_eq_true] at h
    rcases h with h | h
    · exact ⟨[], c :: s, rfl, h⟩
    · obtain ⟨before, behind, rfl, hopens⟩ := ih h
      exact ⟨c :: before, behind, rfl, hopens⟩

/-- **The gate is exact**, whatever characters the tokens consist of: a text passes it if and only
if a lead, a name of one or more word characters, a trail and an opening parenthesis stand behind
one another somewhere in it. Tokens may be empty, may themselves consist of word characters or
parentheses, and may overlap with other leads; neither the place nor the length of the name is
settled beforehand.

**Proof sketch.** All places are tried (`exists_opens_of_gate`, `gate_append`), and at each of them
every length of the name (`opens_iff`). -/
theorem gate_eq_true_iff (t : Template) (s : Text) : gate t s = true ↔
    ∃ before name rest, name ≠ [] ∧ (∀ c ∈ name, isWord c = true) ∧
      s = before ++ (t.lead ++ (name ++ (t.trail ++ '(' :: rest))) := by
  constructor
  · intro h
    obtain ⟨before, behind, rfl, hopens⟩ := exists_opens_of_gate h
    obtain ⟨name, rest, hne, hword, rfl⟩ := opens_iff.1 hopens
    exact ⟨before, name, rest, hne, hword, rfl⟩
  · rintro ⟨before, name, rest, hne, hword, rfl⟩
    exact gate_append (opens_iff.2 ⟨name, rest, hne, hword, rfl⟩) before

/-- The name gives a word character back to the trail, and the first lead that could begin an
occurrence is not the one that does. -/
example : gate ⟨['x'], ['x'], []⟩ "xx xaxx(".toList = true := by decide +kernel

/-! ## Texts with and without occurrences -/

/-- **A text that holds an occurrence passes the gate**, whatever its value is and whatever stands
around it. -/
theorem gate_written {o : Occurrence} (hne : o.name ≠ []) (hword : ∀ c ∈ o.name, isWord c = true)
    (f rest : Text) : gate t (f ++ t.written o ++ rest) = true := by
  rw [List.append_assoc]
  refine gate_append ?_ f
  have hwritten : t.written o ++ rest = t.lead ++ (o.name ++ (t.trail ++
      '(' :: (t.wrapper ++ o.raw ++ t.wrapper ++ [')'] ++ rest))) := by
    simp [written]
  rw [hwritten]
  exact opens_iff.2 ⟨o.name, _, hne, hword, rfl⟩

/-- A text in which the lead does not occur does not pass the gate. -/
lemma gate_of_not_infix {s : Text} (h : ¬ t.lead <:+: s) : gate t s = false := by
  induction s with
  | nil => rfl
  | cons c s ih =>
    rw [gate, ih fun hs => h (List.infix_cons hs), Bool.or_false, opens,
      after?_eq_none_iff.2 fun hs => h hs.isInfix]

/-- **A text that does not pass the gate holds no occurrence**: scanning finds nothing in it. -/
theorem decompose_of_gate {s : Text} (h : gate t s = false) : t.decompose s = .last s := by
  obtain ⟨htext, hexact⟩ := decompose_exact t s
  cases hg : t.decompose s with
  | last f =>
    rw [hg] at htext
    obtain rfl : f = s := htext
    rfl
  | cons f o g =>
    rw [hg] at htext hexact
    have hwf : o.WellFormed := hexact.fits.1
    have hgate := gate_written (t := t) hwf.name_ne_nil hwf.isWord_of_mem_name f (g.text t.written)
    have hs : f ++ t.written o ++ g.text t.written = s := htext
    rw [hs, h] at hgate
    exact absurd hgate Bool.false_ne_true

lemma occurrences_of_gate {s : Text} (h : gate t s = false) : t.occurrences s = [] := by
  rw [occurrences_eq, decompose_of_gate h]
  rfl

lemma base_of_gate {s : Text} (h : gate t s = false) : t.base s = trim s := by
  rw [base_eq, decompose_of_gate h]
  simp [Decomposition.fragments]

/-! ## Texts that pass with an empty base -/

/-- A text that passes the gate holds an opening parenthesis. -/
lemma mem_of_gate {s : Text} (h : gate t s = true) : '(' ∈ s := by
  obtain ⟨before, behind, rfl, hopens⟩ := exists_opens_of_gate h
  obtain ⟨name, rest, -, -, rfl⟩ := opens_iff.1 hopens
  simp

/-- **A text that passes the gate and has an empty base** holds an occurrence: something has been
taken out of it. -/
theorem occurrences_ne_nil_of_gate {s : Text} (h : gate t s = true) (hbase : t.base s = []) :
    t.occurrences s ≠ [] := by
  intro hnone
  obtain ⟨htext, -⟩ := decompose_exact t s
  rw [occurrences_eq] at hnone
  rw [base_eq] at hbase
  cases hg : t.decompose s with
  | last f =>
    rw [hg] at htext hbase
    obtain rfl : f = s := htext
    have htrim : trim f = [] := by simpa [Decomposition.fragments] using hbase
    have hblank := isBlank_of_trim_eq_nil htrim (mem_of_gate h)
    exact absurd hblank (by decide)
  | cons f o g =>
    rw [hg] at hnone
    simp [Decomposition.items] at hnone

end TreeQuery.Template
