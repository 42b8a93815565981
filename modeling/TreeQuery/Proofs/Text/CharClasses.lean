import Mathlib.Data.List.Chain
import Mathlib.Data.List.TakeWhile
import Mathlib.Tactic.Lemma
import TreeQuery.Text.Blank
import TreeQuery.Text.Case
import TreeQuery.Text.Word

set_option relaxedAutoImplicit false
set_option autoImplicit false

/-!
# How classes of characters are related

Classes of characters are given by long lists of runs. That two of them have no character in common
is settled by one pass through both lists, for the runs stand in order. Blanks have nothing to do
with case, and there are two ways to tell word characters, of which one looks at letters and
numbers alone: here it is said which characters they judge differently.

## Main definitions

* `TreeQuery.CharRanges.Apart` — two sets of characters that one pass finds to be apart.
* `TreeQuery.Text.apartClasses` — the pairs of classes for which this is needed.
* `TreeQuery.Text.looksLikeWord` — alphanumeric characters and the underscore.

## Main results

* `TreeQuery.CharRanges.Apart.holds_eq_false` — such sets have no character in common.
* `TreeQuery.Text.looksLikeWord_not_isWord_iff`, `TreeQuery.Text.isWord_not_looksLikeWord_iff` — the
  characters that are judged differently.
-/

namespace TreeQuery

namespace CharRanges

/-! ## Sets without a common character -/

/-- The runs are not empty, and they stand in order. -/
def Ascending (set : CharRanges) : Prop :=
  (∀ run ∈ set, run.1 ≤ run.2) ∧ set.IsChain fun run next => run.2 < next.1

instance (set : CharRanges) : Decidable set.Ascending := inferInstanceAs (Decidable (_ ∧ _))

/-- Passes through two lists of runs and looks out for a run of the one that meets a run of the
other. -/
def pass : CharRanges → CharRanges → Bool
  | [], _ => true
  | run :: a, b =>
    match b.dropWhile fun other => Nat.blt other.2 run.1 with
    | [] => true
    | next :: b => Nat.blt run.2 next.1 && pass a (next :: b)

/-- The runs of both sets stand in order, and no run of the one meets a run of the other. -/
def Apart (a b : CharRanges) : Prop := a.Ascending ∧ b.Ascending ∧ pass a b = true

instance (a b : CharRanges) : Decidable (Apart a b) := inferInstanceAs (Decidable (_ ∧ _))

variable {a b : CharRanges} {run next : Nat × Nat} {c : Char}

lemma Ascending.suffix (h : b.Ascending) (hab : a <:+ b) : a.Ascending :=
  ⟨fun run hrun => h.1 run (hab.subset hrun), h.2.suffix hab⟩

/-- The first run ends before any other begins. -/
lemma Ascending.lt (h : Ascending (run :: a)) (hnext : next ∈ a) : run.2 < next.1 := by
  induction a generalizing run with
  | nil => simp at hnext
  | cons other a ih =>
    have hlt : run.2 < other.1 := (List.isChain_cons_cons.1 h.2).1
    rcases List.mem_cons.1 hnext with rfl | hnext
    · exact hlt
    · have hother : other.1 ≤ other.2 := h.1 other (by simp)
      have hnext := ih (h.suffix (List.suffix_cons _ _)) hnext
      omega

/-- The first run begins before any other. -/
lemma Ascending.le (h : Ascending (run :: a)) (hnext : next ∈ run :: a) : run.1 ≤ next.1 := by
  rcases List.mem_cons.1 hnext with rfl | hnext
  · exact Nat.le_refl _
  · have hrun : run.1 ≤ run.2 := h.1 run (by simp)
    have hlt := h.lt hnext
    omega

/-- **Sets that are apart have no character in common.** -/
theorem Apart.holds_eq_false (h : Apart a b) (hc : a.holds c = true) : b.holds c = false := by
  rw [← Bool.not_eq_true]
  intro hc'
  obtain ⟨run, hrun, hlo, hhi⟩ := holds_iff.1 hc
  obtain ⟨other, hother, hlo', hhi'⟩ := holds_iff.1 hc'
  clear hc hc'
  induction a generalizing b with
  | nil => simp at hrun
  | cons first a ih =>
    obtain ⟨ha, hb, hpass⟩ := h
    let passed (other : Nat × Nat) : Bool := Nat.blt other.2 first.1
    have hfirst : first.1 ≤ run.1 := ha.le hrun
    rw [← List.takeWhile_append_dropWhile (p := passed) (l := b), List.mem_append] at hother
    rcases hother with hother | hother
    · -- The runs that are passed end before the first one of `a` begins.
      have hlt : passed other = true := List.mem_takeWhile_imp hother
      rw [Nat.blt_eq] at hlt
      omega
    · cases hrest : b.dropWhile passed with
      | nil => simp [hrest] at hother
      | cons next rest =>
        have hrestAscending : Ascending (next :: rest) :=
          hb.suffix (hrest ▸ List.dropWhile_suffix passed)
        rw [pass, hrest, Bool.and_eq_true, Nat.blt_eq] at hpass
        rw [hrest] at hother
        rcases List.mem_cons.1 hrun with rfl | hrun
        · have hle := hrestAscending.le hother
          omega
        · exact ih ⟨ha.suffix (List.suffix_cons _ _), hrestAscending, hpass.2⟩ hrun hother

end CharRanges

namespace Text

open Property CharRanges

variable {c : Char}

/-! ## Classes without a common character -/

/-- The ASCII characters. -/
def ascii : CharRanges := [(0x00, 0x7f)]

/-- Pairs of classes without a common character. -/
def apartClasses : List (CharRanges × CharRanges) :=
  [(whiteSpace, cased), (whiteSpace, caseIgnorable), (alphabetic, otherNumber),
   (alphabetic, connector), (alphabetic, joinControl), (decimalNumber, otherNumber),
   (decimalNumber, mark), (decimalNumber, connector), (decimalNumber, joinControl),
   (otherNumber, mark), (otherNumber, connector), (otherNumber, joinControl), (mark, connector),
   (ascii, otherNumber), (ascii, mark), (ascii, joinControl), (ascii, newIn17)]

-- One theorem for all pairs, so that the tables are passed through in a single computation.
lemma apart_of_mem : ∀ classes ∈ apartClasses, Apart classes.1 classes.2 := by decide +kernel

/-- A character of one class of such a pair is not in the other. -/
lemma holds_of_apartClasses {a b : CharRanges}
    (hab : (a, b) ∈ apartClasses ∨ (b, a) ∈ apartClasses) (hc : a.holds c = true) :
    b.holds c = false := by
  rcases hab with hab | hab
  · exact (apart_of_mem _ hab).holds_eq_false hc
  · rw [← Bool.not_eq_true]
    intro hc'
    simp [(apart_of_mem _ hab).holds_eq_false hc'] at hc

/-! ## Blanks -/

lemma cased_of_isBlank (h : isBlank c = true) : cased.holds c = false :=
  holds_of_apartClasses (.inl (by simp [apartClasses])) h

lemma caseIgnorable_of_isBlank (h : isBlank c = true) : caseIgnorable.holds c = false :=
  holds_of_apartClasses (.inl (by simp [apartClasses])) h

/-! ## Characters that look like word characters -/

/-- Alphanumeric characters and the underscore. -/
def looksLikeWord (c : Char) : Bool := isAlphanumeric c || c == '_'

/-- Numbers that are no decimal digits do not continue words. -/
lemma continuesWord_of_otherNumber (h : otherNumber.holds c = true) : continuesWord c = false := by
  have halphabetic : alphabetic.holds c = false := holds_of_apartClasses (by simp [apartClasses]) h
  have hmark : mark.holds c = false := holds_of_apartClasses (by simp [apartClasses]) h
  have hdecimal : decimalNumber.holds c = false := holds_of_apartClasses (by simp [apartClasses]) h
  have hconnector : connector.holds c = false := holds_of_apartClasses (by simp [apartClasses]) h
  have hjoin : joinControl.holds c = false := holds_of_apartClasses (by simp [apartClasses]) h
  simp [continuesWord, halphabetic, hmark, hdecimal, hconnector, hjoin]

/-- Connectors are not alphanumeric. -/
lemma isAlphanumeric_of_connector (h : connector.holds c = true) : isAlphanumeric c = false := by
  have halphabetic : alphabetic.holds c = false := holds_of_apartClasses (by simp [apartClasses]) h
  have hdecimal : decimalNumber.holds c = false := holds_of_apartClasses (by simp [apartClasses]) h
  have hother : otherNumber.holds c = false := holds_of_apartClasses (by simp [apartClasses]) h
  simp [isAlphanumeric, halphabetic, hdecimal, hother]

/-- Join controls do not look like word characters. -/
lemma looksLikeWord_of_joinControl (h : joinControl.holds c = true) : looksLikeWord c = false := by
  have halphabetic : alphabetic.holds c = false := holds_of_apartClasses (by simp [apartClasses]) h
  have hdecimal : decimalNumber.holds c = false := holds_of_apartClasses (by simp [apartClasses]) h
  have hother : otherNumber.holds c = false := holds_of_apartClasses (by simp [apartClasses]) h
  have hne : c ≠ '_' := by
    rintro rfl
    exact absurd h (by decide)
  simp [looksLikeWord, isAlphanumeric, halphabetic, hdecimal, hother, hne]

/-- Marks look like word characters only if they are alphabetic. -/
lemma looksLikeWord_of_mark (h : mark.holds c = true) : looksLikeWord c = alphabetic.holds c := by
  have hdecimal : decimalNumber.holds c = false := holds_of_apartClasses (by simp [apartClasses]) h
  have hother : otherNumber.holds c = false := holds_of_apartClasses (by simp [apartClasses]) h
  have hconnector : connector.holds c = false := holds_of_apartClasses (by simp [apartClasses]) h
  have hne : c ≠ '_' := by
    rintro rfl
    exact absurd hconnector (by decide)
  simp [looksLikeWord, isAlphanumeric, hdecimal, hother, hne]

/-- **What looks like a word character and is none**: the numbers that are no decimal digits, and
what is new in Unicode 17.0. -/
theorem looksLikeWord_not_isWord_iff : looksLikeWord c = true ∧ isWord c = false ↔
    otherNumber.holds c = true ∨ looksLikeWord c = true ∧ newIn17.holds c = true := by
  constructor
  · rintro ⟨hlooks, hword⟩
    cases hnew : newIn17.holds c with
    | true => exact .inr ⟨hlooks, rfl⟩
    | false =>
      left
      simp only [isWord, hnew, Bool.not_false, Bool.and_true, continuesWord, Bool.or_eq_false_iff]
        at hword
      obtain ⟨⟨⟨⟨halphabetic, -⟩, hdecimal⟩, hconnector⟩, -⟩ := hword
      have hne : c ≠ '_' := by
        rintro rfl
        exact absurd hconnector (by decide)
      simpa [looksLikeWord, isAlphanumeric, halphabetic, hdecimal, hne] using hlooks
  · rintro (hother | ⟨hlooks, hnew⟩)
    · have hlooks : looksLikeWord c = true := by simp [looksLikeWord, isAlphanumeric, hother]
      exact ⟨hlooks, by simp [isWord, continuesWord_of_otherNumber hother]⟩
    · exact ⟨hlooks, by simp [isWord, hnew]⟩

/-- **What is a word character and does not look like one**: the marks that are not alphabetic, the
connectors but for the underscore, and the join controls, if they are not new in Unicode 17.0. -/
theorem isWord_not_looksLikeWord_iff : isWord c = true ∧ looksLikeWord c = false ↔
    newIn17.holds c = false ∧ (mark.holds c = true ∧ alphabetic.holds c = false ∨
      connector.holds c = true ∧ c ≠ '_' ∨ joinControl.holds c = true) := by
  constructor
  · rintro ⟨hword, hlooks⟩
    simp only [looksLikeWord, isAlphanumeric, Bool.or_eq_false_iff, beq_eq_false_iff_ne] at hlooks
    obtain ⟨⟨⟨halphabetic, hdecimal⟩, -⟩, hne⟩ := hlooks
    simp only [isWord, continuesWord, halphabetic, hdecimal, Bool.false_or, Bool.or_false,
      Bool.and_eq_true, Bool.or_eq_true, Bool.not_eq_true'] at hword
    obtain ⟨(hmark | hconnector) | hjoin, hnew⟩ := hword
    · exact ⟨hnew, .inl ⟨hmark, halphabetic⟩⟩
    · exact ⟨hnew, .inr (.inl ⟨hconnector, hne⟩)⟩
    · exact ⟨hnew, .inr (.inr hjoin)⟩
  · rintro ⟨hnew, ⟨hmark, halphabetic⟩ | ⟨hconnector, hne⟩ | hjoin⟩
    · refine ⟨by simp [isWord, continuesWord, hmark, hnew], ?_⟩
      exact (looksLikeWord_of_mark hmark).trans halphabetic
    · refine ⟨by simp [isWord, continuesWord, hconnector, hnew], ?_⟩
      simp [looksLikeWord, isAlphanumeric_of_connector hconnector, hne]
    · exact ⟨by simp [isWord, continuesWord, hjoin, hnew], looksLikeWord_of_joinControl hjoin⟩

/-- Of the ASCII characters the word characters are those that look like it. -/
lemma looksLikeWord_of_ascii (h : c.toNat < 128) : looksLikeWord c = isWord c := by
  have hascii : ascii.holds c = true :=
    holds_iff.2 ⟨(0x00, 0x7f), List.mem_singleton.2 rfl, Nat.zero_le _, Nat.le_of_lt_succ h⟩
  have hother : otherNumber.holds c = false := holds_of_apartClasses (by simp [apartClasses]) hascii
  have hnew : newIn17.holds c = false := holds_of_apartClasses (by simp [apartClasses]) hascii
  have hmark : mark.holds c = false := holds_of_apartClasses (by simp [apartClasses]) hascii
  have hjoin : joinControl.holds c = false := holds_of_apartClasses (by simp [apartClasses]) hascii
  have hconnector (hc : connector.holds c = true) : c = '_' := by
    have hruns : ∀ run ∈ connector, run.1 < 128 → run = (0x5f, 0x5f) := by decide
    obtain ⟨run, hrun, hlo, hhi⟩ := holds_iff.1 hc
    obtain rfl := hruns run hrun (Nat.lt_of_le_of_lt hlo h)
    exact Char.toNat_inj.1 (Nat.le_antisymm hhi hlo)
  cases hlooks : looksLikeWord c <;> cases hword : isWord c
  case false.false => rfl
  case false.true =>
    obtain ⟨-, ⟨hc, -⟩ | ⟨hc, hne⟩ | hc⟩ := isWord_not_looksLikeWord_iff.1 ⟨hword, hlooks⟩
    · simp [hmark] at hc
    · exact absurd (hconnector hc) hne
    · simp [hjoin] at hc
  case true.false =>
    simpa [hother, hnew] using looksLikeWord_not_isWord_iff.1 ⟨hlooks, hword⟩
  case true.true => rfl

end Text

end TreeQuery
