import Mathlib.Data.List.TakeWhile
import Mathlib.Tactic.Lemma
import TreeQuery.Text.Basic

set_option relaxedAutoImplicit false
set_option autoImplicit false

/-!
# Reading from the beginning of a text

Facts that the readers of all grammars share. A token is read where it stands, and a run of
characters of one class is read as far as it goes. Of a text that is put together from a run and
something behind it, the reader takes the run alone if what stands behind it does not begin with
a further character of the class.

## Main definitions

* `TreeQuery.Text.Stops` — the text does not begin with a character of a class.

## Main results

* `TreeQuery.Text.takeWhile_append_of_stops`, `TreeQuery.Text.dropWhile_append_of_stops` — the
  run at the beginning of a text, and what stands behind it.
* `TreeQuery.Text.append_inj_of_stops` — a text begins with one run only.
-/

namespace TreeQuery.Text

/-! ## Tokens and readings -/

lemma after?_eq_none_iff {token s : Text} : after? token s = none ↔ ¬ token <+: s := by
  constructor
  · rintro h ⟨rest, rfl⟩
    simp at h
  · intro h
    cases ha : after? token s with
    | none => rfl
    | some rest => exact absurd ⟨rest, (after?_eq_some_iff.1 ha).symm⟩ h

/-- A reader that only makes something else of what another reader has read. -/
lemma of_map_eq_some {α β : Type} {f : α → β} {o : Option (α × Text)} {b : β} {r : Text}
    (h : o.map (fun (a, r) => (f a, r)) = some (b, r)) : ∃ a, f a = b ∧ o = some (a, r) := by
  obtain ⟨⟨a, r'⟩, ho, he⟩ := Option.map_eq_some_iff.1 h
  simp only [Prod.mk.injEq] at he
  obtain ⟨hb, rfl⟩ := he
  exact ⟨a, hb, ho⟩

/-! ## Runs of characters -/

/-- The text does not begin with a character of the class `p`. -/
def Stops (p : Char → Bool) (s : Text) : Prop := ∀ c ∈ s.head?, p c = false

@[simp] lemma stops_nil (p : Char → Bool) : Stops p [] := by simp [Stops]

@[simp] lemma stops_cons {p : Char → Bool} {c : Char} {s : Text} :
    Stops p (c :: s) ↔ p c = false := by simp [Stops]

lemma stops_dropWhile (p : Char → Bool) (s : Text) : Stops p (s.dropWhile p) := by
  intro c hc
  have h := List.head?_dropWhile_not p s
  rw [Option.mem_def.1 hc] at h
  simpa using h

lemma takeWhile_append_of_stops {p : Char → Bool} {s r : Text} (hs : ∀ c ∈ s, p c = true)
    (hr : Stops p r) : (s ++ r).takeWhile p = s := by
  rw [List.takeWhile_append_of_pos hs]
  cases r with
  | nil => simp
  | cons c r => rw [List.takeWhile_cons_of_neg (by simp [stops_cons.1 hr]), List.append_nil]

lemma dropWhile_append_of_stops {p : Char → Bool} {s r : Text} (hs : ∀ c ∈ s, p c = true)
    (hr : Stops p r) : (s ++ r).dropWhile p = r := by
  rw [List.dropWhile_append_of_pos hs]
  cases r with
  | nil => rfl
  | cons c r => rw [List.dropWhile_cons_of_neg (by simp [stops_cons.1 hr])]

/-- A run does not go on behind a character of another class. -/
lemma takeWhile_append_cons {p : Char → Bool} {c : Char} (hc : p c = false) (s r : Text) :
    (s ++ c :: r).takeWhile p = s.takeWhile p := by
  induction s with
  | nil => exact List.takeWhile_cons_of_neg (by simp [hc])
  | cons b s ih => rw [List.cons_append, List.takeWhile_cons, List.takeWhile_cons, ih]

/-- Two runs that go on to the same text are the same. -/
lemma append_inj_of_stops {p : Char → Bool} {s t r u : Text} (hs : ∀ c ∈ s, p c = true)
    (ht : ∀ c ∈ t, p c = true) (hr : Stops p r) (hu : Stops p u) (h : s ++ r = t ++ u) :
    s = t ∧ r = u := by
  constructor
  · rw [← takeWhile_append_of_stops hs hr, h, takeWhile_append_of_stops ht hu]
  · rw [← dropWhile_append_of_stops hs hr, h, dropWhile_append_of_stops ht hu]

end TreeQuery.Text
