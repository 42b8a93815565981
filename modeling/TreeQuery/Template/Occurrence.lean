import TreeQuery.Template.Basic
import TreeQuery.Template.Escape
import TreeQuery.Text.Blank
import TreeQuery.Text.Word

/-!
# Occurrences of pseudo-selectors

A selector text is read from left to right. Where an occurrence begins, the whole occurrence is
taken out and reading goes on behind it; any other character stays. The occurrences in order are
the pseudo-selectors of the text, and the characters that stay, trimmed, are its native base.

The name of an occurrence is made of word characters and is as long as possible, but gives back
characters that the trail needs. The value ends at the first wrapper with a closing parenthesis;
a backslash always takes the character after it along, which may not be a line feed.

## Main definitions

* `TreeQuery.Template.Occurrence` — the name and the written value of an occurrence.
* `TreeQuery.Template.occurrence?` — the occurrence at the beginning of a text.
* `TreeQuery.Template.scan` — a text as occurrences and characters that stay.
* `TreeQuery.Template.base`, `TreeQuery.Template.occurrences` — the two results of scanning.
* `TreeQuery.Template.gate` — the quick test whether a text may hold an occurrence.

## Main results

* `TreeQuery.Template.length_raw_lt` — a written value is shorter than the text it was found in.
-/

namespace TreeQuery.Template

open Text

/-- An occurrence of a pseudo-selector. -/
structure Occurrence where
  /-- The name. -/
  name : Text
  /-- The value as written, escapes included. -/
  raw : Text
  deriving DecidableEq, Repr

/-- The argument of an occurrence. -/
def argument (t : Template) (o : Occurrence) : Text := unescape t.wrapper o.raw

/-- The text of an occurrence. -/
def written (t : Template) (o : Occurrence) : Text :=
  t.lead ++ o.name ++ t.trail ++ '(' :: t.wrapper ++ o.raw ++ t.wrapper ++ [')']

/-! ## Values and names -/

/-- The shortest value in front of `close`, and what follows `close`. -/
def value? (close : Text) : Text → Option (Text × Text)
  | [] => none
  | c :: s =>
    match after? close (c :: s) with
    | some rest => some ([], rest)
    | none =>
      if c = '\\' then
        match s with
        | [] => none
        | d :: s =>
          if d = '\n' then none
          else (value? close s).map fun (value, rest) => (c :: d :: value, rest)
      else (value? close s).map fun (value, rest) => (c :: value, rest)

theorem length_of_value? {close s value rest : Text} (h : value? close s = some (value, rest)) :
    value.length + close.length + rest.length = s.length := by
  fun_induction value? close s generalizing value with
  | case1 => simp at h
  | case2 c s r hr =>
    simp only [Option.some.injEq, Prod.mk.injEq] at h
    obtain ⟨rfl, rfl⟩ := h
    have := length_of_after? hr
    simp only [List.length_nil]
    omega
  | case3 => simp at h
  | case4 => simp at h
  | case5 d s _ _ ih =>
    obtain ⟨⟨v, r⟩, hv, he⟩ := Option.map_eq_some_iff.1 h
    simp only [Prod.mk.injEq] at he
    obtain ⟨rfl, rfl⟩ := he
    have := ih hv
    simp
    omega
  | case6 c s _ _ ih =>
    obtain ⟨⟨v, r⟩, hv, he⟩ := Option.map_eq_some_iff.1 h
    simp only [Prod.mk.injEq] at he
    obtain ⟨rfl, rfl⟩ := he
    have := ih hv
    simp
    omega

/-- What follows the name in an occurrence: the trail, an opening parenthesis, a wrapper, the
value, a wrapper and a closing parenthesis. -/
def body? (t : Template) (s : Text) : Option (Text × Text) :=
  match after? (t.trail ++ '(' :: t.wrapper) s with
  | none => none
  | some s => value? (t.wrapper ++ [')']) s

/-- The occurrence, its lead having been read. The name is the longest one that the rest of an
occurrence follows. -/
def named? (t : Template) : Text → Option (Occurrence × Text)
  | [] => none
  | c :: s =>
    if isWord c then
      match named? t s with
      | some (o, rest) => some (⟨c :: o.name, o.raw⟩, rest)
      | none => (body? t s).map fun (raw, rest) => (⟨[c], raw⟩, rest)
    else none

/-- The occurrence at the beginning of a text. -/
def occurrence? (t : Template) (s : Text) : Option (Occurrence × Text) :=
  match after? t.lead s with
  | none => none
  | some s => named? t s

theorem length_of_body? {t : Template} {s raw rest : Text} (h : body? t s = some (raw, rest)) :
    raw.length + rest.length < s.length := by
  unfold body? at h
  split at h
  · simp at h
  · rename_i r hr
    have h₁ := length_of_after? hr
    have h₂ := length_of_value? h
    simp only [List.length_append, List.length_cons, List.length_nil] at h₁ h₂
    omega

theorem length_of_named? {t : Template} {s rest : Text} {o : Occurrence}
    (h : named? t s = some (o, rest)) : o.raw.length + rest.length < s.length := by
  induction s generalizing o with
  | nil => simp [named?] at h
  | cons c s ih =>
    unfold named? at h
    split at h
    · split at h
      · rename_i o' r hn
        simp only [Option.some.injEq, Prod.mk.injEq] at h
        obtain ⟨rfl, rfl⟩ := h
        have := ih hn
        exact Nat.lt_succ_of_lt this
      · obtain ⟨⟨raw, r⟩, hb, he⟩ := Option.map_eq_some_iff.1 h
        simp only [Prod.mk.injEq] at he
        obtain ⟨rfl, rfl⟩ := he
        exact Nat.lt_succ_of_lt (length_of_body? hb)
    · simp at h

theorem length_of_occurrence? {t : Template} {s rest : Text} {o : Occurrence}
    (h : occurrence? t s = some (o, rest)) : o.raw.length + rest.length < s.length := by
  unfold occurrence? at h
  split at h
  · simp at h
  · rename_i r hr
    have h₁ := length_of_after? hr
    have h₂ := length_of_named? h
    omega

/-! ## Scanning -/

/-- A part of a scanned text. -/
inductive Piece
  /-- A character that stays. -/
  | char (c : Char)
  /-- An occurrence, which is taken out. -/
  | occurrence (o : Occurrence)
  deriving DecidableEq, Repr

/-- A text as occurrences and characters that stay, from left to right. -/
def scan (t : Template) : Text → List Piece
  | [] => []
  | c :: s =>
    match _h : occurrence? t (c :: s) with
    | some (o, rest) => .occurrence o :: scan t rest
    | none => .char c :: scan t s
termination_by s => s.length
decreasing_by
  · have := length_of_occurrence? ‹_›
    omega
  · simp

/-- The native part of a text: the characters that stay, trimmed. -/
def base (t : Template) (s : Text) : Text :=
  trim ((scan t s).filterMap fun | .char c => some c | .occurrence _ => none)

/-- The occurrences of a text from left to right. -/
def occurrences (t : Template) (s : Text) : List Occurrence :=
  (scan t s).filterMap fun | .char _ => none | .occurrence o => some o

/-- A written value is shorter than the text it was found in. -/
theorem length_raw_lt {t : Template} {s : Text} {o : Occurrence} (h : o ∈ occurrences t s) :
    o.raw.length < s.length := by
  unfold occurrences at h
  fun_induction scan t s with
  | case1 => simp at h
  | case2 c s p rest ho ih =>
    have := length_of_occurrence? ho
    rcases List.mem_cons.1 h with rfl | h
    · omega
    · have := ih h
      omega
  | case3 c s _ ih =>
    have := ih (by simpa using h)
    simp
    omega

/-- An argument is shorter than the text it was found in. -/
theorem length_argument_lt {t : Template} {s : Text} {o : Occurrence}
    (h : o ∈ occurrences t s) : (t.argument o).length < s.length :=
  Nat.lt_of_le_of_lt (length_unescape_le _ _) (length_raw_lt h)

/-! ## The gate -/

/-- Whether a text, its lead having been read, begins with a name, a trail and an opening
parenthesis. -/
def opensAfterLead (t : Template) : Text → Bool
  | [] => false
  | c :: s => isWord c && (opensAfterLead t s || (after? (t.trail ++ ['(']) s).isSome)

/-- Whether a text begins with a lead, a name, a trail and an opening parenthesis. -/
def opens (t : Template) (s : Text) : Bool :=
  match after? t.lead s with
  | none => false
  | some s => opensAfterLead t s

/-- Whether the beginning of an occurrence, without regard to its value, is anywhere in a
text. -/
def gate (t : Template) : Text → Bool
  | [] => false
  | c :: s => opens t (c :: s) || gate t s

end TreeQuery.Template
