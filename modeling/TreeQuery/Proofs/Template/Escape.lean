import TreeQuery.Proofs.Template.Occurrence

set_option relaxedAutoImplicit false
set_option autoImplicit false

/-!
# Escaping of arguments

An argument may be any text. Written with a backslash in front of every backslash, and of every
wrapper that begins with another character, it stands for the argument again. This holds for
wrappers of every length, whatever they consist of: one that is empty is never escaped, of two
occurrences that overlap only the first one is, and one that begins with a backslash never is, since
backslashes are doubled anyway.

With a wrapper of one character the written argument is, moreover, a value that no wrapper ends too
early. The wrapper may be any character but a line feed, which no backslash takes along; it may be
the backslash or the closing parenthesis.

## Main results

* `TreeQuery.Template.unescape_escape_append` — an escaped argument stands for the argument,
  whatever is written behind it, and `TreeQuery.Template.unescape_escape`, if nothing is.
* `TreeQuery.Template.escape_singleton` — what escaping does to each character.
* `TreeQuery.Template.units_escape`, `TreeQuery.Template.shortest_escape` — an escaped argument is
  a value, and it ends at the first wrapper with a closing parenthesis behind it.
-/

namespace TreeQuery.Template

open Text

/-! ## Wrappers of every length -/

lemma afterWrapper?_append {wrapper : Text} (h : wrapper ≠ []) (s : Text) :
    afterWrapper? wrapper (wrapper ++ s) = some s := by
  rw [afterWrapper?, if_neg (by simpa using h), after?_append]

lemma eq_append_of_afterWrapper? {wrapper s rest : Text}
    (h : afterWrapper? wrapper s = some rest) : wrapper ≠ [] ∧ s = wrapper ++ rest := by
  unfold afterWrapper? at h
  split at h
  · simp at h
  · rename_i hne
    exact ⟨by simpa using hne, after?_eq_some_iff.1 h⟩

@[simp] lemma unescape_nil (wrapper : Text) : unescape wrapper [] = [] := by rw [unescape]

/-- Two backslashes stand for one, also in front of a wrapper that begins with a backslash. -/
lemma unescape_backslash (wrapper s : Text) :
    unescape wrapper ('\\' :: '\\' :: s) = '\\' :: unescape wrapper s := by
  rw [unescape]

/-- A backslash and a wrapper that does not begin with one stand for the wrapper. -/
lemma unescape_wrapper {c : Char} (hc : c ≠ '\\') (w s : Text) :
    unescape (c :: w) ('\\' :: c :: w ++ s) = c :: w ++ unescape (c :: w) s := by
  have hafter : afterWrapper? (c :: w) (c :: w ++ s) = some s :=
    afterWrapper?_append (List.cons_ne_nil c w) s
  rw [List.cons_append, unescape.eq_3 _ (c :: w ++ s) fun _ h => hc (List.cons.inj h).1]
  split
  · rename_i rest h
    rw [hafter, Option.some.injEq] at h
    rw [h]
  · rename_i h
    cases hafter.symm.trans h

/-- Any character but a backslash stands for itself. -/
lemma unescape_cons {c : Char} (hc : c ≠ '\\') (wrapper s : Text) :
    unescape wrapper (c :: s) = c :: unescape wrapper s :=
  unescape.eq_4 _ _ _ (fun _ h _ => hc h) hc

/-- **An escaped argument stands for the argument**, and what is written behind it for what it stands
for by itself: no escape goes on beyond the argument.

**Proof sketch.** By the recursion of escaping. Each of its steps writes one escape or one character,
and reading takes exactly that back (`unescape_backslash`, `unescape_wrapper`, `unescape_cons`). A
wrapper is escaped only where it begins with another character than a backslash, so that its escape
is not mistaken for two backslashes. -/
theorem unescape_escape_append (wrapper v rest : Text) :
    unescape wrapper (escape wrapper v ++ rest) = v ++ unescape wrapper rest := by
  fun_induction escape wrapper v with
  | case1 => rfl
  | case2 v ih =>
    rw [List.cons_append, List.cons_append, unescape_backslash, ih, List.cons_append]
  | case3 c v hc behind h ih =>
    obtain ⟨hne, hv⟩ := eq_append_of_afterWrapper? h
    obtain ⟨d, w, rfl⟩ := List.exists_cons_of_ne_nil hne
    -- The wrapper begins with the character at hand, which is no backslash.
    obtain rfl : c = d := (List.cons.inj hv).1
    rw [List.append_assoc, unescape_wrapper hc, ih, hv, List.append_assoc]
  | case4 c v hc _ ih => rw [List.cons_append, unescape_cons hc, ih, List.cons_append]

/-- **Unescaping inverts escaping**, with every template and for every argument. -/
theorem unescape_escape (t : Template) (v : Text) :
    unescape t.wrapper (escape t.wrapper v) = v := by
  simpa using unescape_escape_append t.wrapper v []

/-- Of two occurrences that overlap the first one is escaped. -/
example : escape "aba".toList "xababa".toList = "x\\ababa".toList := by cbv

/-- A wrapper that begins with a backslash is not escaped as a whole. -/
example : escape "\\a".toList "\\a".toList = "\\\\a".toList := by cbv

/-! ## Wrappers of one character -/

/-- A character of an argument as it is written between wrappers `w`. -/
def escapeChar (w c : Char) : Text := if c = '\\' ∨ c = w then ['\\', c] else [c]

@[simp] lemma escapeChar_backslash (w : Char) : escapeChar w '\\' = ['\\', '\\'] := by
  simp [escapeChar]

@[simp] lemma escapeChar_self (w : Char) : escapeChar w w = ['\\', w] := by simp [escapeChar]

lemma escapeChar_of_ne {w c : Char} (hc : c ≠ '\\') (hw : c ≠ w) : escapeChar w c = [c] := by
  simp [escapeChar, hc, hw]

lemma afterWrapper?_singleton (w c : Char) (s : Text) :
    afterWrapper? [w] (c :: s) = if w = c then some s else none := by
  simp [afterWrapper?, after?]

/-- Backslashes and wrapper characters get a backslash in front of them; a wrapper that is a
backslash gets one only. -/
theorem escape_singleton (w : Char) (v : Text) : escape [w] v = v.flatMap (escapeChar w) := by
  induction v with
  | nil => simp [escape]
  | cons c v ih =>
    rw [escape, List.flatMap_cons, ← ih]
    by_cases hc : c = '\\'
    · subst hc
      simp
    · rw [if_neg hc]
      by_cases hw : c = w
      · subst hw
        split
        · rename_i rest h
          rw [afterWrapper?_singleton, if_pos rfl, Option.some.injEq] at h
          simp [h]
        · rename_i h
          simp [afterWrapper?_singleton] at h
      · rw [escapeChar_of_ne hc hw]
        split
        · rename_i rest h
          rw [afterWrapper?_singleton, if_neg (Ne.symm hw)] at h
          simp at h
        · rfl

/-- An escaped argument is made of units. -/
lemma units_escape {w : Char} (hline : w ≠ '\n') (v : Text) : Units (escape [w] v) := by
  rw [escape_singleton]
  induction v with
  | nil => exact .nil
  | cons c v ih =>
    rw [List.flatMap_cons, escapeChar]
    split
    · rename_i hc
      refine .escaped ?_ ih
      rcases hc with rfl | rfl
      · decide
      · exact hline
    · rename_i hc
      exact .plain (fun h => hc (.inl h)) ih

/-- An empty value ends at the first possible place. -/
lemma Shortest.nil (close rest : Text) : Shortest close [] rest := by
  intro u v huv _ hv
  exact absurd (List.append_eq_nil_iff.1 huv.symm).2 hv

/-- No wrapper with a closing parenthesis ends an escaped argument too early. -/
lemma shortest_escape (w : Char) (v rest : Text) : Shortest [w, ')'] (escape [w] v) rest := by
  rw [escape_singleton]
  induction v with
  | nil => exact .nil _ _
  | cons c v ih =>
    rw [List.flatMap_cons, escapeChar]
    split
    · rename_i hc
      refine ih.cons_escaped fun h => ?_
      -- The wrapper would be the backslash in front of `c`, and `c` the closing parenthesis.
      simp only [List.cons_append, List.cons_prefix_cons] at h
      obtain ⟨rfl, rfl, -⟩ := h
      simp at hc
    · rename_i hc
      refine ih.cons_plain (fun h => hc (.inl h)) fun h => ?_
      simp only [List.cons_append, List.cons_prefix_cons] at h
      exact hc (.inr h.1.symm)

/-- An escaped argument stands for the argument, if the wrapper is one character. -/
theorem unescape_escape_singleton (w : Char) (v : Text) : unescape [w] (escape [w] v) = v := by
  simpa using unescape_escape_append [w] v []

end TreeQuery.Template
