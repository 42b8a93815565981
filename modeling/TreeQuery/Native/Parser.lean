import TreeQuery.Native.Basic
import TreeQuery.Text.Blank
import TreeQuery.Text.Word

/-!
# Reading native selectors

Every reader takes a text, reads as much of it as it can from the beginning, and returns what it
has read together with the rest. A reader that finds nothing returns `none`, and its caller goes
on from where it was.

```text
list       = complex (ws* ',' ws* complex)*
complex    = compound ((ws* '>' ws* | ws+) compound)*
compound   = ('*' | name)? simple*                          (not empty)
simple     = '#' name | '.' name | '[' ws* name ws* (operator ws* value ws*)? ']'
operator   = '=' | '~=' | '^=' | '$=' | '*='
value      = '"' [^"]* '"' | "'" [^']* "'" | name
name       = one or more of: alphanumeric, '-', '_'
```

## Main definitions

* `TreeQuery.Native.compound?`, `TreeQuery.Native.complex?`, `TreeQuery.Native.list?` — the
  readers of the grammar.
* `TreeQuery.Native.SelectorList.parse` — a whole text as a selector list, or why it is none.

## Main results

* `TreeQuery.Native.length_of_compound?`, `TreeQuery.Native.length_of_complex?` — what a reader
  leaves is shorter than what it was given, so that reading comes to an end.
-/

namespace TreeQuery.Native

open Text

/-! ## Names and values -/

/-- The characters of names: alphanumeric characters, the hyphen and the underscore. -/
def isNameChar (c : Char) : Bool := isAlphanumeric c || c == '-' || c == '_'

/-- The longest name at the beginning of a text. -/
def name? (s : Text) : Option (Text × Text) :=
  match s.takeWhile isNameChar with
  | [] => none
  | c :: cs => some (c :: cs, s.dropWhile isNameChar)

theorem length_of_name? {s n rest : Text} (h : name? s = some (n, rest)) :
    rest.length < s.length := by
  unfold name? at h
  split at h
  · simp at h
  · rename_i c cs hn
    simp only [Option.some.injEq, Prod.mk.injEq] at h
    have hs := congrArg List.length (List.takeWhile_append_dropWhile (p := isNameChar) (l := s))
    rw [hn, h.2] at hs
    simp at hs
    omega

/-- The text up to the next `quote`, which is left out of both the value and the rest. -/
def quotedValue? (quote : Char) (s : Text) : Option (Text × Text) :=
  match s.dropWhile (· != quote) with
  | [] => none
  | _ :: rest => some (s.takeWhile (· != quote), rest)

theorem length_of_quotedValue? {quote : Char} {s v rest : Text}
    (h : quotedValue? quote s = some (v, rest)) : rest.length < s.length := by
  unfold quotedValue? at h
  split at h
  · simp at h
  · rename_i c rest' hd
    simp only [Option.some.injEq, Prod.mk.injEq] at h
    have hs := (List.dropWhile_sublist (· != quote) (l := s)).length_le
    rw [hd, h.2, List.length_cons] at hs
    exact hs

/-- The value of an attribute test: quoted in one of two ways, or a name. -/
def value? : Text → Option (Text × Text)
  | '"' :: s => quotedValue? '"' s
  | '\'' :: s => quotedValue? '\'' s
  | s => name? s

theorem length_of_value? {s v rest : Text} (h : value? s = some (v, rest)) :
    rest.length < s.length := by
  unfold value? at h
  split at h
  · exact Nat.lt_succ_of_lt (length_of_quotedValue? h)
  · exact Nat.lt_succ_of_lt (length_of_quotedValue? h)
  · exact length_of_name? h

/-! ## Simple selectors -/

/-- One condition of a compound other than the tag. -/
inductive Simple
  | id (name : Text)
  | className (name : Text)
  | attribute (test : AttributeTest)
  deriving DecidableEq, Repr

/-- The comparison operator at the beginning of a text. -/
def operator? : Text → Option (Operator × Text)
  | '=' :: s => some (.equals, s)
  | '~' :: '=' :: s => some (.includes, s)
  | '^' :: '=' :: s => some (.begins, s)
  | '$' :: '=' :: s => some (.ends, s)
  | '*' :: '=' :: s => some (.contains, s)
  | _ => none

theorem length_of_operator? {s rest : Text} {op : Operator}
    (h : operator? s = some (op, rest)) : rest.length < s.length := by
  unfold operator? at h
  split at h
  all_goals simp only [Option.some.injEq, Prod.mk.injEq, reduceCtorEq] at h
  all_goals
    obtain ⟨-, rfl⟩ := h
    simp only [List.length_cons]
    omega

/-- An operator and a value, with spaces around the value. -/
def comparison? (s : Text) : Option ((Operator × Text) × Text) :=
  match operator? s with
  | none => none
  | some (op, s) =>
    match value? (skipSpace s) with
    | none => none
    | some (v, rest) => some ((op, v), skipSpace rest)

theorem length_of_comparison? {s rest : Text} {c : Operator × Text}
    (h : comparison? s = some (c, rest)) : rest.length < s.length := by
  unfold comparison? at h
  split at h
  · simp at h
  · rename_i op r hop
    split at h
    · simp at h
    · rename_i v r' hv
      simp only [Option.some.injEq, Prod.mk.injEq] at h
      have h₁ := length_of_operator? hop
      have h₂ := length_of_value? hv
      have h₃ := length_skipSpace_le r
      have h₄ := length_skipSpace_le r'
      rw [← h.2]
      omega

/-- The closing bracket of an attribute test that has been read. -/
def closeBracket? (test : AttributeTest) : Text → Option (AttributeTest × Text)
  | ']' :: rest => some (test, rest)
  | _ => none

theorem length_of_closeBracket? {t u : AttributeTest} {s rest : Text}
    (h : closeBracket? t s = some (u, rest)) : rest.length < s.length := by
  unfold closeBracket? at h
  split at h <;> simp_all

/-- An attribute test whose opening bracket has been read. -/
def attributeTest? (s : Text) : Option (AttributeTest × Text) :=
  match name? (skipSpace s) with
  | none => none
  | some (name, s) =>
    match comparison? (skipSpace s) with
    | some (c, s) => closeBracket? ⟨name, some c⟩ s
    | none => closeBracket? ⟨name, none⟩ (skipSpace s)

theorem length_of_attributeTest? {s rest : Text} {t : AttributeTest}
    (h : attributeTest? s = some (t, rest)) : rest.length < s.length := by
  unfold attributeTest? at h
  split at h
  · simp at h
  · rename_i name r hn
    have h₁ := length_of_name? hn
    have h₂ := length_skipSpace_le s
    have h₃ := length_skipSpace_le r
    split at h
    · rename_i c r' hc
      have h₄ := length_of_comparison? hc
      have h₅ := length_of_closeBracket? h
      omega
    · have h₅ := length_of_closeBracket? h
      omega

/-- An id, a class or an attribute test. -/
def simple? : Text → Option (Simple × Text)
  | '#' :: s => (name? s).map fun (n, rest) => (.id n, rest)
  | '.' :: s => (name? s).map fun (n, rest) => (.className n, rest)
  | '[' :: s => (attributeTest? s).map fun (t, rest) => (.attribute t, rest)
  | _ => none

theorem length_of_simple? {s rest : Text} {x : Simple} (h : simple? s = some (x, rest)) :
    rest.length < s.length := by
  unfold simple? at h
  split at h
  · obtain ⟨⟨n, r⟩, hn, he⟩ := Option.map_eq_some_iff.1 h
    simp only [Prod.mk.injEq] at he
    exact Nat.lt_succ_of_lt (he.2 ▸ length_of_name? hn)
  · obtain ⟨⟨n, r⟩, hn, he⟩ := Option.map_eq_some_iff.1 h
    simp only [Prod.mk.injEq] at he
    exact Nat.lt_succ_of_lt (he.2 ▸ length_of_name? hn)
  · obtain ⟨⟨t, r⟩, ht, he⟩ := Option.map_eq_some_iff.1 h
    simp only [Prod.mk.injEq] at he
    exact Nat.lt_succ_of_lt (he.2 ▸ length_of_attributeTest? ht)
  · simp at h

/-- As many simple selectors as follow one another. -/
def simples (s : Text) : List Simple × Text :=
  match _h : simple? s with
  | none => ([], s)
  | some (x, rest) => (x :: (simples rest).1, (simples rest).2)
termination_by s.length
decreasing_by all_goals exact length_of_simple? ‹_›

theorem length_simples_le (s : Text) : (simples s).2.length ≤ s.length := by
  fun_induction simples s with
  | case1 s h => simp
  | case2 s x rest h ih => exact Nat.le_trans ih (Nat.le_of_lt (length_of_simple? h))

/-! ## Compounds -/

/-- The universal selector or a tag name. -/
def typeSelector? : Text → Option (Option Text × Text)
  | '*' :: rest => some (none, rest)
  | s => (name? s).map fun (n, rest) => (some n, rest)

theorem length_of_typeSelector? {s rest : Text} {t : Option Text}
    (h : typeSelector? s = some (t, rest)) : rest.length < s.length := by
  unfold typeSelector? at h
  split at h
  · simp_all
  · obtain ⟨⟨n, r⟩, hn, he⟩ := Option.map_eq_some_iff.1 h
    simp only [Prod.mk.injEq] at he
    exact he.2 ▸ length_of_name? hn

/-- The compound with a tag and further simple selectors; each kind keeps its order. -/
def Compound.ofSimples (tag : Option Text) (xs : List Simple) : Compound where
  tag := tag
  ids := xs.filterMap fun | .id n => some n | _ => none
  classes := xs.filterMap fun | .className n => some n | _ => none
  attributes := xs.filterMap fun | .attribute t => some t | _ => none

/-- A type selector, simple selectors, or both. -/
def compound? (s : Text) : Option (Compound × Text) :=
  match typeSelector? s with
  | some (tag, rest) => some (.ofSimples tag (simples rest).1, (simples rest).2)
  | none =>
    match simples s with
    | ([], _) => none
    | (x :: xs, rest) => some (.ofSimples none (x :: xs), rest)

theorem length_of_compound? {s rest : Text} {c : Compound} (h : compound? s = some (c, rest)) :
    rest.length < s.length := by
  unfold compound? at h
  split at h
  · rename_i tag r ht
    simp only [Option.some.injEq, Prod.mk.injEq] at h
    have h₁ := length_of_typeSelector? ht
    have h₂ := length_simples_le r
    rw [← h.2]
    omega
  · split at h
    · simp at h
    · rename_i x xs r hx
      simp only [Option.some.injEq, Prod.mk.injEq] at h
      rw [simples] at hx
      split at hx
      · simp at hx
      · rename_i y r' hy
        simp only [Prod.mk.injEq] at hx
        have h₁ := length_of_simple? hy
        have h₂ := length_simples_le r'
        rw [← h.2, ← hx.2]
        omega

/-! ## Complex selectors -/

/-- A greater-than sign with spaces around it, or else one or more spaces. -/
def combinator? (s : Text) : Option (Combinator × Text) :=
  match skipSpace s with
  | '>' :: rest => some (.child, skipSpace rest)
  | rest => if s.head?.any isSpace then some (.descendant, rest) else none

theorem length_of_combinator? {s rest : Text} {k : Combinator}
    (h : combinator? s = some (k, rest)) : rest.length ≤ s.length := by
  have hs := length_skipSpace_le s
  unfold combinator? at h
  split at h
  · rename_i r hr
    simp only [Option.some.injEq, Prod.mk.injEq] at h
    have h₁ := length_skipSpace_le r
    rw [hr, List.length_cons] at hs
    rw [← h.2]
    omega
  · split at h
    · simp only [Option.some.injEq, Prod.mk.injEq] at h
      rw [← h.2]
      exact hs
    · simp at h

/-- The complex selector `left` extended by as many combinators with compounds as follow. A
combinator without a compound behind it is left unread. -/
def extendComplex (left : Complex) (s : Text) : Complex × Text :=
  match _h : combinator? s with
  | none => (left, s)
  | some (k, r) =>
    match _h' : compound? r with
    | none => (left, s)
    | some (c, rest) => extendComplex (.extend left k c) rest
termination_by s.length
decreasing_by exact Nat.lt_of_lt_of_le (length_of_compound? ‹_›) (length_of_combinator? ‹_›)

theorem length_extendComplex_le (left : Complex) (s : Text) :
    (extendComplex left s).2.length ≤ s.length := by
  fun_induction extendComplex left s with
  | case1 => simp
  | case2 => simp
  | case3 left s k r h c rest h' ih =>
    have h₁ := length_of_compound? h'
    have h₂ := length_of_combinator? h
    omega

/-- A compound, extended as far as possible. -/
def complex? (s : Text) : Option (Complex × Text) :=
  (compound? s).map fun (c, rest) => extendComplex (.single c) rest

theorem length_of_complex? {s rest : Text} {x : Complex} (h : complex? s = some (x, rest)) :
    rest.length < s.length := by
  obtain ⟨⟨c, r⟩, hc, he⟩ := Option.map_eq_some_iff.1 h
  have h₁ := length_of_compound? hc
  have h₂ := length_extendComplex_le (.single c) r
  have he' : (extendComplex (.single c) r).2 = rest := congrArg Prod.snd he
  rw [he'] at h₂
  omega

/-! ## Lists -/

/-- A comma with spaces around it. -/
def comma? (s : Text) : Option Text :=
  match skipSpace s with
  | ',' :: rest => some (skipSpace rest)
  | _ => none

theorem length_of_comma? {s rest : Text} (h : comma? s = some rest) :
    rest.length < s.length := by
  have hs := length_skipSpace_le s
  unfold comma? at h
  split at h
  · rename_i r hr
    simp only [Option.some.injEq] at h
    have h₁ := length_skipSpace_le r
    rw [hr, List.length_cons] at hs
    rw [← h]
    omega
  · simp at h

/-- As many further complex selectors as follow, each behind a comma. A comma without a complex
selector behind it is left unread. -/
def moreComplex (s : Text) : List Complex × Text :=
  match _h : comma? s with
  | none => ([], s)
  | some r =>
    match _h' : complex? r with
    | none => ([], s)
    | some (x, rest) => (x :: (moreComplex rest).1, (moreComplex rest).2)
termination_by s.length
decreasing_by all_goals exact Nat.lt_trans (length_of_complex? ‹_›) (length_of_comma? ‹_›)

/-- One or more complex selectors separated by commas. -/
def list? (s : Text) : Option (SelectorList × Text) :=
  (complex? s).map fun (x, rest) => (x :: (moreComplex rest).1, (moreComplex rest).2)

/-- The trimmed text as a selector list. It must be used up to the last character. -/
def SelectorList.parse (s : Text) : Except InvalidSelector SelectorList :=
  if (trim s).isEmpty then .error ⟨s, .empty⟩
  else match list? (trim s) with
    | some (list, []) => .ok list
    | some (_, c :: rest) => .error ⟨s, .unexpected (c :: rest)⟩
    | none => .error ⟨s, .unreadable (trim s)⟩

end TreeQuery.Native
