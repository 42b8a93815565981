import TreeQuery.Json.Numeral

/-!
# Data texts

The grammar of data texts. Reading gives the text's structure with its numbers still as written
and without any limit on nesting; whether the parts have values, and which, is asked only of the
parts that somebody needs.

```text
value  = 'null' | 'true' | 'false' | numeral | string | array | object
array  = '[' ']' | '[' value (',' value)* ']'
object = '\x7b' '\x7d' | '\x7b' string ':' value (',' string ':' value)* '\x7d'
```

with spaces allowed between any two parts.

## Main definitions

* `TreeQuery.Json.Raw` — the structure of a data text.
* `TreeQuery.Json.Raw.parse?` — the structure of a whole text.
* `TreeQuery.Json.Raw.width` — a lower bound for the number of characters of a text with this
  structure.

## Main results

* `TreeQuery.Json.Raw.width_le_of_parse?` — a text is at least as long as the width of its
  structure; in particular no string has more characters than the text it was read from.
-/

namespace TreeQuery.Json

open Text

/-- The structure of a data text. A string that holds half of a surrogate pair has no text. -/
inductive Raw
  | null
  | bool (value : Bool)
  | number (numeral : Numeral)
  | string (text : Option Text)
  | array (items : List Raw)
  | object (members : List (Option Text × Raw))
  deriving Repr, Inhabited

/-! ## Strings -/

/-- One unit of a string: a character, or a UTF-16 code given in base sixteen. -/
inductive StringUnit
  | char (c : Char)
  | code (value : Nat)
  deriving DecidableEq, Repr

/-- The character that a short escape stands for. -/
def shortEscape? (c : Char) : Option Char :=
  if c = '"' ∨ c = '\\' ∨ c = '/' then some c
  else if c = 'b' then some '\x08'
  else if c = 'f' then some '\x0c'
  else if c = 'n' then some '\n'
  else if c = 'r' then some '\r'
  else if c = 't' then some '\t'
  else none

/-- The number written by four digits in base sixteen. -/
def hexCode? (a b c d : Char) : Option Nat := do
  return (((← hexDigit? a) * 16 + (← hexDigit? b)) * 16 + (← hexDigit? c)) * 16 + (← hexDigit? d)

/-- The units of a string whose opening quote has been read, up to and without its closing
quote. -/
def stringUnits? : Text → Option (List StringUnit × Text)
  | [] => none
  | '"' :: rest => some ([], rest)
  | '\\' :: 'u' :: a :: b :: c :: d :: s => do
    let code ← hexCode? a b c d
    let (units, rest) ← stringUnits? s
    return (.code code :: units, rest)
  | '\\' :: e :: s => do
    let c ← shortEscape? e
    let (units, rest) ← stringUnits? s
    return (.char c :: units, rest)
  | c :: s =>
    if c.toNat < 0x20 ∨ c = '\\' then none
    else do
      let (units, rest) ← stringUnits? s
      return (.char c :: units, rest)

/-- The text of a string. The first half of a surrogate pair must be followed by a second half,
and a second half stands nowhere else. -/
def unitsText? : List StringUnit → Option Text
  | [] => some []
  | .char c :: units => (unitsText? units).map (c :: ·)
  | .code high :: .code low :: units =>
    if 0xd800 ≤ high ∧ high < 0xdc00 then
      if 0xdc00 ≤ low ∧ low < 0xe000 then
        (unitsText? units).map
          (Char.ofNat (0x10000 + (high - 0xd800) * 0x400 + (low - 0xdc00)) :: ·)
      else none
    else if 0xdc00 ≤ high ∧ high < 0xe000 then none
    else (unitsText? (.code low :: units)).map (Char.ofNat high :: ·)
  | .code code :: units =>
    if 0xd800 ≤ code ∧ code < 0xe000 then none
    else (unitsText? units).map (Char.ofNat code :: ·)

/-- A string whose opening quote has been read. -/
def string? (s : Text) : Option (Option Text × Text) :=
  (stringUnits? s).map fun (units, rest) => (unitsText? units, rest)

/-! ## Values -/

/-- One of the three words that are values. -/
def keyword? (s : Text) : Option (Raw × Text) :=
  match after? ['n', 'u', 'l', 'l'] s with
  | some rest => some (.null, rest)
  | none =>
    match after? ['t', 'r', 'u', 'e'] s with
    | some rest => some (.bool true, rest)
    | none => (after? ['f', 'a', 'l', 's', 'e'] s).map fun rest => (.bool false, rest)

/-- The name of a member, the colon after it, and what follows. -/
def memberName? (s : Text) : Option (Option Text × Text) :=
  match skipSpace s with
  | '"' :: s =>
    match string? s with
    | none => none
    | some (name, s) =>
      match skipSpace s with
      | ':' :: rest => some (name, rest)
      | _ => none
  | _ => none

mutual

/-- The value at the beginning of a text, found in at most `fuel` nested steps. -/
def value? : (fuel : Nat) → Text → Option (Raw × Text)
  | 0, _ => none
  | fuel + 1, s =>
    match skipSpace s with
    | '"' :: s => (string? s).map fun (text, rest) => (.string text, rest)
    | '[' :: s =>
      match skipSpace s with
      | ']' :: rest => some (.array [], rest)
      | s => (items? fuel s).map fun (items, rest) => (.array items, rest)
    | '\x7b' :: s =>
      match skipSpace s with
      | '\x7d' :: rest => some (.object [], rest)
      | s => (members? fuel s).map fun (members, rest) => (.object members, rest)
    | s =>
      match keyword? s with
      | some found => some found
      | none => (numeral? s).map fun (n, rest) => (.number n, rest)

/-- One or more values separated by commas, and the closing bracket. -/
def items? : (fuel : Nat) → Text → Option (List Raw × Text)
  | 0, _ => none
  | fuel + 1, s =>
    match value? fuel s with
    | none => none
    | some (item, s) =>
      match skipSpace s with
      | ']' :: rest => some ([item], rest)
      | ',' :: s => (items? fuel s).map fun (items, rest) => (item :: items, rest)
      | _ => none

/-- One or more members separated by commas, and the closing brace. -/
def members? : (fuel : Nat) → Text → Option (List (Option Text × Raw) × Text)
  | 0, _ => none
  | fuel + 1, s =>
    match memberName? s with
    | none => none
    | some (name, s) =>
      match value? fuel s with
      | none => none
      | some (item, s) =>
        match skipSpace s with
        | '\x7d' :: rest => some ([(name, item)], rest)
        | ',' :: s =>
          (members? fuel s).map fun (members, rest) => ((name, item) :: members, rest)
        | _ => none

end

/-- The structure of a whole text. Every step down and every step along uses up a character, so
twice the length is enough. -/
def Raw.parse? (s : Text) : Option Raw :=
  match value? (2 * s.length + 2) s with
  | some (raw, rest) => if (skipSpace rest).isEmpty then some raw else none
  | none => none

/-! ## Widths -/

/-- The number of characters of a string's text with its quotes; two for a string without text. -/
def stringWidth (text : Option Text) : Nat := (text.getD []).length + 2

mutual

/-- A lower bound for the number of characters of a text with this structure. -/
def Raw.width : Raw → Nat
  | .null | .bool _ | .number _ => 1
  | .string text => stringWidth text
  | .array items => itemsWidth items + 1
  | .object members => membersWidth members + 1

/-- The width of items with a separator or bracket behind each. -/
def itemsWidth : List Raw → Nat
  | [] => 0
  | item :: items => item.width + 1 + itemsWidth items

/-- The width of members with a separator or brace behind each. -/
def membersWidth : List (Option Text × Raw) → Nat
  | [] => 0
  | (name, item) :: members => stringWidth name + item.width + 1 + membersWidth members

end

/-! ## Texts are at least as long as their structure is wide -/

theorem length_of_stringUnits? {s rest : Text} {units : List StringUnit}
    (h : stringUnits? s = some (units, rest)) : units.length + rest.length + 1 ≤ s.length := by
  fun_induction stringUnits? s generalizing units with
  | case1 => simp at h
  | case2 r => simp_all
  | case3 a b c d s ih =>
    simp only [Option.bind_eq_bind, Option.bind_eq_some_iff] at h
    obtain ⟨code, -, ⟨us, r⟩, hr, h⟩ := h
    simp only [Option.pure_def, Option.some.injEq, Prod.mk.injEq] at h
    obtain ⟨rfl, rfl⟩ := h
    have := ih hr
    simp
    omega
  | case4 e s he ih =>
    simp only [Option.bind_eq_bind, Option.bind_eq_some_iff] at h
    obtain ⟨c, -, ⟨us, r⟩, hr, h⟩ := h
    simp only [Option.pure_def, Option.some.injEq, Prod.mk.injEq] at h
    obtain ⟨rfl, rfl⟩ := h
    have := ih hr
    simp
    omega
  | case5 => simp at h
  | case6 c s hq hu he hc ih =>
    simp only [Option.bind_eq_bind, Option.bind_eq_some_iff] at h
    obtain ⟨⟨us, r⟩, hr, h⟩ := h
    simp only [Option.pure_def, Option.some.injEq, Prod.mk.injEq] at h
    obtain ⟨rfl, rfl⟩ := h
    have := ih hr
    simp
    omega

theorem length_of_unitsText? {units : List StringUnit} {t : Text}
    (h : unitsText? units = some t) : t.length ≤ units.length := by
  fun_induction unitsText? units generalizing t with
  | case1 => simp_all
  | case2 c units ih =>
    obtain ⟨u, hu, rfl⟩ := Option.map_eq_some_iff.1 h
    simpa using ih hu
  | case3 high low units _ _ ih =>
    obtain ⟨u, hu, rfl⟩ := Option.map_eq_some_iff.1 h
    have := ih hu
    simp
    omega
  | case4 => simp at h
  | case5 => simp at h
  | case6 high low units _ _ ih =>
    obtain ⟨u, hu, rfl⟩ := Option.map_eq_some_iff.1 h
    simpa using ih hu
  | case7 => simp at h
  | case8 code units _ _ ih =>
    obtain ⟨u, hu, rfl⟩ := Option.map_eq_some_iff.1 h
    simpa using ih hu

theorem stringWidth_of_string? {s rest : Text} {t : Option Text}
    (h : string? s = some (t, rest)) : stringWidth t + rest.length ≤ s.length + 1 := by
  obtain ⟨⟨units, r⟩, hu, he⟩ := Option.map_eq_some_iff.1 h
  simp only [Prod.mk.injEq] at he
  have h₁ := length_of_stringUnits? hu
  rw [he.2] at h₁
  unfold stringWidth
  cases ht : t with
  | none => simp; omega
  | some u =>
    have h₂ := length_of_unitsText? (he.1.trans ht)
    simp
    omega

theorem length_of_keyword? {s rest : Text} {raw : Raw} (h : keyword? s = some (raw, rest)) :
    raw.width + rest.length ≤ s.length := by
  unfold keyword? at h
  split at h
  · rename_i r hr
    have := length_of_after? hr
    simp only [Option.some.injEq, Prod.mk.injEq] at h
    rw [← h.1, ← h.2, this]
    simp [Raw.width]
  · split at h
    · rename_i r hr
      have := length_of_after? hr
      simp only [Option.some.injEq, Prod.mk.injEq] at h
      rw [← h.1, ← h.2, this]
      simp [Raw.width]
    · obtain ⟨r, hr, h⟩ := Option.map_eq_some_iff.1 h
      have := length_of_after? hr
      simp only [Prod.mk.injEq] at h
      rw [← h.1, ← h.2, this]
      simp [Raw.width]

theorem length_of_memberName? {s rest : Text} {name : Option Text}
    (h : memberName? s = some (name, rest)) : stringWidth name + rest.length ≤ s.length := by
  have hs := length_skipSpace_le s
  unfold memberName? at h
  split at h
  · rename_i s₁ hs₁
    rw [hs₁, List.length_cons] at hs
    split at h
    · simp at h
    · rename_i n s₂ hn
      have h₂ := length_skipSpace_le s₂
      split at h
      · rename_i s₃ hs₃
        simp only [Option.some.injEq, Prod.mk.injEq] at h
        obtain ⟨rfl, rfl⟩ := h
        have h₃ := stringWidth_of_string? hn
        rw [hs₃, List.length_cons] at h₂
        omega
      · simp at h
  · simp at h

/-- What a reader has read is at least as long as the structure it found is wide. -/
theorem width_le_of_value? (fuel : Nat) :
    (∀ {s rest : Text} {raw : Raw}, value? fuel s = some (raw, rest) →
      raw.width + rest.length ≤ s.length) ∧
    (∀ {s rest : Text} {items : List Raw}, items? fuel s = some (items, rest) →
      itemsWidth items + rest.length ≤ s.length) ∧
    (∀ {s rest : Text} {members : List (Option Text × Raw)},
      members? fuel s = some (members, rest) →
      membersWidth members + rest.length ≤ s.length) := by
  induction fuel with
  | zero => simp [value?, items?, members?]
  | succ fuel ih =>
    obtain ⟨ihv, ihi, ihm⟩ := ih
    refine ⟨?_, ?_, ?_⟩
    · intro s rest raw h
      have hs := length_skipSpace_le s
      unfold value? at h
      split at h
      · rename_i s₁ hs₁
        obtain ⟨⟨t, r⟩, ht, he⟩ := Option.map_eq_some_iff.1 h
        simp only [Prod.mk.injEq] at he
        obtain ⟨rfl, rfl⟩ := he
        have h₁ := stringWidth_of_string? ht
        rw [hs₁, List.length_cons] at hs
        simp only [Raw.width]
        omega
      · rename_i s₁ hs₁
        rw [hs₁, List.length_cons] at hs
        have h₁ := length_skipSpace_le s₁
        split at h
        · rename_i r hr
          simp only [Option.some.injEq, Prod.mk.injEq] at h
          obtain ⟨rfl, rfl⟩ := h
          rw [hr, List.length_cons] at h₁
          simp only [Raw.width, itemsWidth]
          omega
        · obtain ⟨⟨items, r⟩, hi, he⟩ := Option.map_eq_some_iff.1 h
          simp only [Prod.mk.injEq] at he
          obtain ⟨rfl, rfl⟩ := he
          have h₂ := ihi hi
          simp only [Raw.width]
          omega
      · rename_i s₁ hs₁
        rw [hs₁, List.length_cons] at hs
        have h₁ := length_skipSpace_le s₁
        split at h
        · rename_i r hr
          simp only [Option.some.injEq, Prod.mk.injEq] at h
          obtain ⟨rfl, rfl⟩ := h
          rw [hr, List.length_cons] at h₁
          simp only [Raw.width, membersWidth]
          omega
        · obtain ⟨⟨members, r⟩, hm, he⟩ := Option.map_eq_some_iff.1 h
          simp only [Prod.mk.injEq] at he
          obtain ⟨rfl, rfl⟩ := he
          have h₂ := ihm hm
          simp only [Raw.width]
          omega
      · split at h
        · rename_i found hk
          simp only [Option.some.injEq] at h
          subst h
          have h₁ := length_of_keyword? hk
          omega
        · obtain ⟨⟨n, r⟩, hn, he⟩ := Option.map_eq_some_iff.1 h
          simp only [Prod.mk.injEq] at he
          obtain ⟨rfl, rfl⟩ := he
          have h₁ := length_of_numeral? hn
          simp only [Raw.width]
          omega
    · intro s rest items h
      unfold items? at h
      split at h
      · simp at h
      · rename_i item s₁ hv
        have h₁ := ihv hv
        have h₂ := length_skipSpace_le s₁
        split at h
        · rename_i r hr
          simp only [Option.some.injEq, Prod.mk.injEq] at h
          obtain ⟨rfl, rfl⟩ := h
          rw [hr, List.length_cons] at h₂
          simp only [itemsWidth]
          omega
        · rename_i s₂ hs₂
          obtain ⟨⟨more, r⟩, hi, he⟩ := Option.map_eq_some_iff.1 h
          simp only [Prod.mk.injEq] at he
          obtain ⟨rfl, rfl⟩ := he
          have h₃ := ihi hi
          rw [hs₂, List.length_cons] at h₂
          simp only [itemsWidth]
          omega
        · simp at h
    · intro s rest members h
      unfold members? at h
      split at h
      · simp at h
      · rename_i name s₁ hn
        have h₁ := length_of_memberName? hn
        split at h
        · simp at h
        · rename_i item s₂ hv
          have h₂ := ihv hv
          have h₃ := length_skipSpace_le s₂
          split at h
          · rename_i r hr
            simp only [Option.some.injEq, Prod.mk.injEq] at h
            obtain ⟨rfl, rfl⟩ := h
            rw [hr, List.length_cons] at h₃
            simp only [membersWidth]
            omega
          · rename_i s₃ hs₃
            obtain ⟨⟨more, r⟩, hm, he⟩ := Option.map_eq_some_iff.1 h
            simp only [Prod.mk.injEq] at he
            obtain ⟨rfl, rfl⟩ := he
            have h₄ := ihm hm
            rw [hs₃, List.length_cons] at h₃
            simp only [membersWidth]
            omega
          · simp at h

/-- A text is at least as long as its structure is wide. -/
theorem Raw.width_le_of_parse? {s : Text} {raw : Raw} (h : Raw.parse? s = some raw) :
    raw.width ≤ s.length := by
  unfold Raw.parse? at h
  split at h
  · rename_i found rest hv
    have h₁ := (width_le_of_value? _).1 hv
    split at h
    · simp only [Option.some.injEq] at h
      subst h
      omega
    · simp at h
  · simp at h

end TreeQuery.Json
