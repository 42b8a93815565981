import TreeQuery.Text.Basic

/-!
# Escaping of values

The value of an occurrence ends at the first wrapper with a closing parenthesis. A backslash
escapes what would end it too early: a backslash before a backslash, and a backslash before a
whole wrapper. Any other backslash means itself.

## Main definitions

* `TreeQuery.Template.unescape` — the argument that a written value stands for.
* `TreeQuery.Template.escape` — a written value for an argument.

## Main results

* `TreeQuery.Template.length_unescape_le` — an argument is no longer than its written value.
-/

namespace TreeQuery.Template

open Text

/-- What follows a wrapper; nothing counts as an empty wrapper. -/
def afterWrapper? (wrapper s : Text) : Option Text :=
  if wrapper.isEmpty then none else after? wrapper s

theorem length_of_afterWrapper? {wrapper s rest : Text} (h : afterWrapper? wrapper s = some rest) :
    s.length = wrapper.length + rest.length := by
  unfold afterWrapper? at h
  split at h
  · simp at h
  · exact length_of_after? h

/-- The argument that a written value stands for: two backslashes are one, a backslash and a
wrapper are a wrapper, and everything else is itself. -/
def unescape (wrapper : Text) : Text → Text
  | [] => []
  | '\\' :: '\\' :: s => '\\' :: unescape wrapper s
  | '\\' :: s =>
    match _h : afterWrapper? wrapper s with
    | some rest => wrapper ++ unescape wrapper rest
    | none => '\\' :: unescape wrapper s
  | c :: s => c :: unescape wrapper s
termination_by s => s.length
decreasing_by
  · simp only [List.length_cons]
    omega
  · have := length_of_afterWrapper? ‹_›
    simp only [List.length_cons]
    omega
  · simp
  · simp

/-- A written value for an argument: backslashes are doubled, and a backslash is put in front of
every wrapper that begins with another character. -/
def escape (wrapper : Text) : Text → Text
  | [] => []
  | c :: s =>
    if c = '\\' then '\\' :: '\\' :: escape wrapper s
    else
      match _h : afterWrapper? wrapper (c :: s) with
      | some rest => '\\' :: wrapper ++ escape wrapper rest
      | none => c :: escape wrapper s
termination_by s => s.length
decreasing_by
  · simp
  · have := length_of_afterWrapper? ‹_›
    unfold afterWrapper? at _h
    split at _h
    · simp at _h
    · rename_i hw
      have : 0 < wrapper.length := by
        cases wrapper <;> simp_all
      omega
  · simp

/-- An argument is no longer than its written value. -/
theorem length_unescape_le (wrapper s : Text) : (unescape wrapper s).length ≤ s.length := by
  fun_induction unescape wrapper s with
  | case1 => simp
  | case2 s ih =>
    simp
    omega
  | case3 s _ rest h ih =>
    have := length_of_afterWrapper? h
    simp
    omega
  | case4 s _ h ih => simpa using ih
  | case5 c s _ _ ih => simpa using ih

end TreeQuery.Template
