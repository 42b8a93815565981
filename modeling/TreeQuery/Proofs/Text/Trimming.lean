import Mathlib.Data.List.DropRight
import TreeQuery.Proofs.Text.Reading
import TreeQuery.Text.Blank

set_option relaxedAutoImplicit false
set_option autoImplicit false

/-!
# Trimmed texts

A trimmed text neither begins nor ends with a blank, and a text that neither begins nor ends with
one is trimmed.

## Main definitions

* `TreeQuery.Text.EndsSolid` — a text that ends, and not with a blank.

## Main results

* `TreeQuery.Text.trim_append_append` — trimming leaves what stands between blanks.
* `TreeQuery.Text.trim_eq_self` — trimming leaves a text alone that has no blanks at its ends.
* `TreeQuery.Text.trim_trim` — trimming twice is trimming once.
-/

namespace TreeQuery.Text

/-! ## Texts between blanks -/

/-- The text has a last character, and that is no blank. -/
def EndsSolid (s : Text) : Prop := ∃ c, s.getLast? = some c ∧ isBlank c = false

/-- How a text ends does not depend on what stands in front of it. -/
lemma EndsSolid.append {s : Text} (h : EndsSolid s) (r : Text) : EndsSolid (r ++ s) := by
  obtain ⟨c, hc, hsolid⟩ := h
  exact ⟨c, by rw [List.getLast?_append, hc, Option.some_or], hsolid⟩

/-- Read backwards, a text that does not end with a blank does not begin with one. -/
lemma EndsSolid.stops_reverse {s : Text} (h : EndsSolid s) : Stops isBlank s.reverse := by
  obtain ⟨c, hc, hsolid⟩ := h
  intro b hb
  rw [List.head?_reverse, hc] at hb
  obtain rfl := Option.some.inj hb
  exact hsolid

/-- Of a text that does not end with a blank trimming its end leaves all, also if blanks follow. -/
lemma trimEnd_append {s after : Text} (hend : EndsSolid s) (hafter : ∀ c ∈ after, isBlank c = true) :
    trimEnd (s ++ after) = s := by
  have hblanks : ∀ b ∈ after.reverse, isBlank b = true := fun b hb => hafter b (List.mem_reverse.1 hb)
  rw [trimEnd, List.reverse_append, dropWhile_append_of_stops hblanks hend.stops_reverse,
    List.reverse_reverse]

/-- The blanks behind a text that does not end with a blank. -/
lemma rtakeWhile_append {s after : Text} (hend : EndsSolid s)
    (hafter : ∀ c ∈ after, isBlank c = true) : (s ++ after).rtakeWhile isBlank = after := by
  have hblanks : ∀ b ∈ after.reverse, isBlank b = true := fun b hb => hafter b (List.mem_reverse.1 hb)
  rw [List.rtakeWhile, List.reverse_append, takeWhile_append_of_stops hblanks hend.stops_reverse,
    List.reverse_reverse]

/-- **What stands between blanks** is what trimming leaves. -/
theorem trim_append_append {before s after : Text} (hbefore : ∀ c ∈ before, isBlank c = true)
    (hafter : ∀ c ∈ after, isBlank c = true) (hbegin : Stops isBlank s) (hend : EndsSolid s) :
    trim (before ++ s ++ after) = s := by
  have hstops : Stops isBlank (s ++ after) := by
    cases s with
    | nil =>
      obtain ⟨c, hc, -⟩ := hend
      simp at hc
    | cons c s => exact stops_cons.2 (stops_cons.1 hbegin)
  rw [trim, trimStart, List.append_assoc, dropWhile_append_of_stops hbefore hstops,
    trimEnd_append hend hafter]

/-- A text is what trimming leaves of it, between blanks. -/
lemma exists_trim (s : Text) : ∃ before after : Text, (∀ c ∈ before, isBlank c = true) ∧
    (∀ c ∈ after, isBlank c = true) ∧ s = before ++ trim s ++ after := by
  refine ⟨s.takeWhile isBlank, List.rtakeWhile isBlank (trimStart s),
    fun c hc => List.mem_takeWhile_imp hc, fun c hc => List.mem_rtakeWhile_imp hc, ?_⟩
  have hend : trim s ++ List.rtakeWhile isBlank (trimStart s) = trimStart s :=
    List.rdropWhile_append_rtakeWhile
  rw [List.append_assoc, hend]
  exact List.takeWhile_append_dropWhile.symm

/-! ## Trimming twice -/

/-- A trimmed text does not begin with a blank. -/
lemma stops_isBlank_trim (s : Text) : Stops isBlank (trim s) := by
  obtain ⟨rest, hrest⟩ : trim s <+: trimStart s := List.rdropWhile_prefix isBlank (trimStart s)
  have hstart : Stops isBlank (trimStart s) := stops_dropWhile isBlank s
  rw [← hrest] at hstart
  cases htrim : trim s with
  | nil => exact stops_nil isBlank
  | cons c u =>
    rw [htrim, List.cons_append, stops_cons] at hstart
    exact stops_cons.2 hstart

/-- A text of which trimming leaves nothing holds blanks only. -/
lemma isBlank_of_trim_eq_nil {s : Text} (h : trim s = []) {c : Char} (hc : c ∈ s) :
    isBlank c = true := by
  have hstart : ∀ c ∈ trimStart s, isBlank c = true := List.rdropWhile_eq_nil_iff.1 h
  rw [← List.takeWhile_append_dropWhile (p := isBlank) (l := s), List.mem_append] at hc
  rcases hc with hc | hc
  · exact List.mem_takeWhile_imp hc
  · exact hstart c hc

/-- Trimming leaves a text alone that neither begins nor ends with a blank. -/
lemma trim_eq_self {s : Text} (hbegin : Stops isBlank s) (hend : trimEnd s = s) : trim s = s := by
  have hstart : trimStart s = s := dropWhile_append_of_stops (s := []) (by simp) hbegin
  rw [trim, hstart, hend]

/-- **Trimming twice is trimming once.** -/
theorem trim_trim (s : Text) : trim (trim s) = trim s := by
  refine trim_eq_self (stops_isBlank_trim s) ?_
  exact List.rdropWhile_idempotent isBlank (trimStart s)

/-- A space at the end of a text is trimmed away. -/
lemma trim_append_space (s : Text) : trim (s ++ [' ']) = trim s := by
  have hspace : isBlank ' ' = true := by decide
  unfold trim trimStart
  rw [List.dropWhile_append]
  by_cases h : (s.dropWhile isBlank).isEmpty = true
  · rw [if_pos h, List.isEmpty_iff.1 h, List.dropWhile_cons_of_pos hspace]
    rfl
  · rw [if_neg h]
    exact (List.rdropWhile_concat isBlank _ _).trans (if_pos hspace)

end TreeQuery.Text
