import Mathlib.Data.List.Basic
import Mathlib.Tactic.Lemma
import TreeQuery.Text.Blank

set_option relaxedAutoImplicit false
set_option autoImplicit false

/-!
# Pieces, words and lines

A text is cut into pieces at separators, which no piece holds. Words are the pieces between blanks,
without the empty ones, and lines are the pieces between line feeds; only an empty piece at the end
is no line, so that a text has as many lines as line feeds if it ends with one.

## Main definitions

* `TreeQuery.Text.lines` — the lines of a text.

## Main results

* `TreeQuery.Text.length_pieces` — there is one piece more than there are separators.
* `TreeQuery.Text.isBlank_of_mem_words` — no word holds a blank.
* `TreeQuery.Text.lines_append_lineFeed` — the lines up to a line feed, and those behind it.
-/

namespace TreeQuery.Text

/-! ## Pieces -/

section Pieces

variable {p : Char → Bool} {s part : Text} {c : Char}

/-- The parts between separators are those that the library splits a list into. -/
lemma pieces_eq_splitOnP (separates : Char → Bool) (s : Text) :
    pieces separates s = s.splitOnP separates := by
  induction s with
  | nil => exact List.splitOnP_nil.symm
  | cons c s ih =>
    rw [pieces, List.splitOnP_cons_eq_if_modifyHead, ih]
    by_cases hc : separates c = true
    · rw [if_pos hc, if_pos hc]
    · rw [if_neg hc, if_neg hc]
      cases h : s.splitOnP separates with
      | nil => exact absurd h (List.splitOnP_ne_nil separates s)
      | cons part parts => rfl

lemma pieces_ne_nil (p : Char → Bool) (s : Text) : pieces p s ≠ [] := by
  rw [pieces_eq_splitOnP]
  exact List.splitOnP_ne_nil p s

/-- Every text has a first piece, which a character that is no separator becomes part of. -/
lemma exists_pieces_cons (hc : ¬ p c = true) (s : Text) :
    ∃ part parts, pieces p s = part :: parts ∧ pieces p (c :: s) = (c :: part) :: parts := by
  obtain ⟨part, parts, hs⟩ := List.exists_cons_of_ne_nil (pieces_ne_nil p s)
  refine ⟨part, parts, hs, ?_⟩
  rw [pieces, if_neg hc, hs]

/-- **There is one piece more than there are separators.** -/
lemma length_pieces (p : Char → Bool) (s : Text) : (pieces p s).length = s.countP p + 1 := by
  induction s with
  | nil => rfl
  | cons c s ih =>
    by_cases hc : p c = true
    · rw [pieces, if_pos hc, List.length_cons, ih, List.countP_cons_of_pos hc]
    · obtain ⟨part, parts, hs, hcs⟩ := exists_pieces_cons hc s
      rw [hcs, List.countP_cons_of_neg hc, ← ih, hs, List.length_cons, List.length_cons]

/-- What a piece holds stands in the text, and is no separator. -/
lemma mem_of_mem_pieces (hpart : part ∈ pieces p s) (hc : c ∈ part) : c ∈ s ∧ p c = false := by
  induction s generalizing part with
  | nil =>
    obtain rfl := List.mem_singleton.1 hpart
    simp at hc
  | cons d s ih =>
    by_cases hd : p d = true
    · rw [pieces, if_pos hd] at hpart
      rcases List.mem_cons.1 hpart with rfl | hpart
      · simp at hc
      · exact (ih hpart hc).imp_left (List.mem_cons_of_mem d)
    · obtain ⟨first, parts, hs, hds⟩ := exists_pieces_cons hd s
      rw [hds] at hpart
      rw [hs] at ih
      rcases List.mem_cons.1 hpart with rfl | hpart
      · rcases List.mem_cons.1 hc with rfl | hc
        · exact ⟨List.mem_cons_self, by simpa using hd⟩
        · exact (ih List.mem_cons_self hc).imp_left (List.mem_cons_of_mem d)
      · exact (ih (List.mem_cons_of_mem first hpart) hc).imp_left (List.mem_cons_of_mem d)

end Pieces

/-! ## Words -/

/-- The texts of a list behind one another, with a separator between them. -/
lemma intercalate_cons (sep s : Text) (ss : List Text) :
    List.intercalate sep (s :: ss) = s ++ ss.flatMap (sep ++ ·) := by
  induction ss generalizing s with
  | nil => simp
  | cons s' ss ih =>
    rw [List.intercalate_cons_cons, ih, List.flatMap_cons, List.append_assoc, List.append_assoc]

/-- What stands in texts with a separator between them stands in the separator or in one of them. -/
lemma mem_of_mem_intercalate {sep : Text} {ss : List Text} {c : Char}
    (h : c ∈ List.intercalate sep ss) : c ∈ sep ∨ ∃ s ∈ ss, c ∈ s := by
  cases ss with
  | nil => simp at h
  | cons s ss =>
    rw [intercalate_cons, List.mem_append, List.mem_flatMap] at h
    rcases h with hs | ⟨s', hs', hc⟩
    · exact .inr ⟨s, List.mem_cons_self, hs⟩
    · exact (List.mem_append.1 hc).imp_right fun hc => ⟨s', List.mem_cons_of_mem s hs', hc⟩

/-- **No word holds a blank.** -/
lemma isBlank_of_mem_words {s word : Text} {c : Char} (hword : word ∈ words s) (hc : c ∈ word) :
    isBlank c = false :=
  (mem_of_mem_pieces (List.mem_filter.1 hword).1 hc).2

/-! ## Lines -/

/-- The lines of a text, each without the line feed at its end. The last line need not have one. -/
def lines (s : Text) : List Text :=
  let parts := pieces (· == '\n') s
  if parts.getLast? = some [] then parts.dropLast else parts

/-- **The lines up to a line feed**, and then those behind it. -/
lemma lines_append_lineFeed (s r : Text) :
    lines (s ++ '\n' :: r) = pieces (· == '\n') s ++ lines r := by
  have hcut : pieces (· == '\n') (s ++ '\n' :: r) =
      pieces (· == '\n') s ++ pieces (· == '\n') r := by
    simp only [pieces_eq_splitOnP]
    exact List.splitOnP_append_cons s r rfl
  have hne : pieces (· == '\n') r ≠ [] := pieces_ne_nil _ r
  unfold lines
  dsimp only
  rw [hcut, List.getLast?_append_of_ne_nil _ hne, List.dropLast_append_of_ne_nil hne]
  split <;> rfl

end TreeQuery.Text
