import TreeQuery.Json.Basic

/-!
# Numerals

A number as it is written in a data text, and the value it stands for.

A numeral without fraction and exponent is an integer as long as it lies between `-2 ^ 63` and
`2 ^ 64 - 1`; minus zero is a double. All other numerals are doubles. Their value is found in
steps of which each rounds: digits are gathered into a significand below `2 ^ 64`, the
significand is rounded to a double, and the double is multiplied or divided by a rounded power of
ten. The value is therefore not always the double nearest to the numeral.

## Main definitions

* `TreeQuery.Json.Numeral` — sign, digits, fraction and exponent of a numeral.
* `TreeQuery.Json.numeral?` — the numeral at the beginning of a text.
* `TreeQuery.Json.Numeral.value?` — the value of a numeral, none if it is too large.
-/

namespace TreeQuery.Json

open Text

/-- A number as written. -/
structure Numeral where
  /-- Whether a minus sign stands in front. -/
  negative : Bool
  /-- The digits before the point. -/
  whole : List Nat
  /-- The digits after the point, if there is a point. -/
  fraction : Option (List Nat)
  /-- Whether the exponent is negative, and its digits, if there is an exponent. -/
  exponent : Option (Bool × List Nat)
  deriving DecidableEq, Repr

/-! ## Reading -/

/-- The digits at the beginning of a text, and what follows them. -/
def digits (s : Text) : List Nat × Text :=
  ((s.takeWhile Char.isDigit).filterMap digit?, s.dropWhile Char.isDigit)

/-- One or more digits. -/
def digits? (s : Text) : Option (List Nat × Text) :=
  match digits s with
  | ([], _) => none
  | (d :: ds, rest) => some (d :: ds, rest)

/-- A whole number: a zero, or digits that do not begin with a zero. -/
def whole? : Text → Option (List Nat × Text)
  | '0' :: rest => some ([0], rest)
  | s => digits? s

/-- A point and the digits after it, if there is a point. A point alone is an error. -/
def fraction? : Text → Option (Option (List Nat) × Text)
  | '.' :: s => (digits? s).map fun (ds, rest) => (some ds, rest)
  | s => some (none, s)

/-- The sign of an exponent. -/
def exponentSign : Text → Bool × Text
  | '+' :: s => (false, s)
  | '-' :: s => (true, s)
  | s => (false, s)

/-- An exponent, if there is one. An exponent mark without digits is an error. -/
def exponent? (s : Text) : Option (Option (Bool × List Nat) × Text) :=
  match s with
  | [] => some (none, [])
  | c :: r =>
    if c = 'e' ∨ c = 'E' then
      (digits? (exponentSign r).2).map fun (ds, rest) => (some ((exponentSign r).1, ds), rest)
    else some (none, c :: r)

/-- The sign of a numeral. -/
def sign : Text → Bool × Text
  | '-' :: s => (true, s)
  | s => (false, s)

/-- The numeral at the beginning of a text. -/
def numeral? (s : Text) : Option (Numeral × Text) := do
  let (negative, s) := sign s
  let (whole, s) ← whole? s
  let (fraction, s) ← fraction? s
  let (exponent, s) ← exponent? s
  return (⟨negative, whole, fraction, exponent⟩, s)

/-! ## Reading uses up characters -/

theorem length_of_digits? {s rest : Text} {ds : List Nat} (h : digits? s = some (ds, rest)) :
    rest.length < s.length := by
  simp only [digits?, digits] at h
  split at h
  · simp at h
  · rename_i d ds' r hd
    simp only [Option.some.injEq, Prod.mk.injEq] at h hd
    have hs := congrArg List.length (List.takeWhile_append_dropWhile (p := Char.isDigit) (l := s))
    rw [List.length_append, hd.2, h.2] at hs
    have hpos : 0 < (s.takeWhile Char.isDigit).length := by
      have := congrArg List.length hd.1
      have hle := List.length_filterMap_le digit? (s.takeWhile Char.isDigit)
      simp only [List.length_cons] at this
      omega
    omega

theorem length_of_whole? {s rest : Text} {ds : List Nat} (h : whole? s = some (ds, rest)) :
    rest.length < s.length := by
  unfold whole? at h
  split at h
  · simp_all
  · exact length_of_digits? h

theorem length_of_fraction? {s rest : Text} {f : Option (List Nat)}
    (h : fraction? s = some (f, rest)) : rest.length ≤ s.length := by
  unfold fraction? at h
  split at h
  · obtain ⟨⟨ds, r⟩, hr, he⟩ := Option.map_eq_some_iff.1 h
    simp only [Prod.mk.injEq] at he
    obtain ⟨-, rfl⟩ := he
    exact Nat.le_succ_of_le (Nat.le_of_lt (length_of_digits? hr))
  · simp_all

theorem length_exponentSign_le (s : Text) : (exponentSign s).2.length ≤ s.length := by
  unfold exponentSign
  split <;> simp

theorem length_of_exponent? {s rest : Text} {e : Option (Bool × List Nat)}
    (h : exponent? s = some (e, rest)) : rest.length ≤ s.length := by
  unfold exponent? at h
  split at h
  · simp_all
  · rename_i c r
    split at h
    · obtain ⟨⟨ds, t⟩, ht, he⟩ := Option.map_eq_some_iff.1 h
      simp only [Prod.mk.injEq] at he
      obtain ⟨-, rfl⟩ := he
      have h₁ := length_of_digits? ht
      have h₂ := length_exponentSign_le r
      simp
      omega
    · simp_all

theorem length_sign_le (s : Text) : (sign s).2.length ≤ s.length := by
  unfold sign
  split <;> simp

theorem length_of_numeral? {s rest : Text} {n : Numeral} (h : numeral? s = some (n, rest)) :
    rest.length < s.length := by
  simp only [numeral?, Option.bind_eq_bind, Option.bind_eq_some_iff, Option.pure_def,
    Option.some.injEq, Prod.mk.injEq] at h
  obtain ⟨⟨w, r₁⟩, hw, ⟨f, r₂⟩, hf, ⟨e, r₃⟩, he, -, rfl⟩ := h
  have h₁ := length_sign_le s
  have h₂ : r₁.length < (sign s).2.length := length_of_whole? hw
  have h₃ : r₂.length ≤ r₁.length := length_of_fraction? hf
  have h₄ : r₃.length ≤ r₂.length := length_of_exponent? he
  simp only
  omega

/-! ## Values -/

/-- The number written by decimal digits, the most significant first. -/
def ofDigits (ds : List Nat) : Nat := ds.foldl (fun n d => 10 * n + d) 0

/-- Adds digits to a significand as long as it stays below `2 ^ 64`; the number of digits that
were added, and how many were not. -/
def gather (significand : Nat) : List Nat → Nat × Nat × Nat
  | [] => (significand, 0, 0)
  | d :: ds =>
    if 10 * significand + d < UInt64.size then
      let (n, added, left) := gather (10 * significand + d) ds
      (n, added + 1, left)
    else (significand, 0, ds.length + 1)

/-- The exponent of a numeral in the steps of its value: how far the written exponent counts. -/
inductive PowerOfTen
  | finite (power : Int)
  /-- More than the greatest 32-bit number, or less than its negative. -/
  | extreme (negative : Bool)

/-- The written exponent as a number, unless it is extreme. -/
def writtenPower : Option (Bool × List Nat) → PowerOfTen
  | none => .finite 0
  | some (negative, ds) =>
    let n := ofDigits ds
    if Nat.pow 2 31 ≤ n then .extreme negative
    else .finite (if negative then -(n : Int) else n)

/-- A double times a power of ten. Powers of up to `10 ^ 308` are one rounded multiplication or
division; a smaller power is taken in several divisions, a greater one is too large. -/
def scale? (x : Binary64) (power : Int) : Option Binary64 :=
  if power.natAbs ≤ 308 then do
    let factor ← Binary64.powerOfTen? power.natAbs
    if 0 ≤ power then x.mul? factor else x.div? factor
  else if x.mantissa = 0 then some x
  else if 0 ≤ power then none
  else do
    let step ← Binary64.powerOfTen? 308
    scale? (← x.div? step) (power + 308)
termination_by power.natAbs

/-- The double that a numeral stands for. -/
def Numeral.double? (n : Numeral) : Option Binary64 := do
  let (significand, _, left) := gather 0 n.whole
  let (significand, added, _) := gather significand (n.fraction.getD [])
  match writtenPower n.exponent with
  | .finite power =>
    let x ← Binary64.ofRatio? significand 1
    return (← scale? x ((left : Int) - added + power)).withSign n.negative
  | .extreme negative =>
    if significand = 0 ∨ negative then some (.zero n.negative) else none

/-- The value of a numeral, none if it is too large. -/
def Numeral.value? (n : Numeral) : Option Json :=
  match n.fraction, n.exponent with
  | none, none =>
    let m := ofDigits n.whole
    if n.negative then
      if 0 < m ∧ m ≤ Nat.pow 2 63 then some (.int (-(m : Int))) else n.double?.map .double
    else if m < UInt64.size then some (.int m) else n.double?.map .double
  | _, _ => n.double?.map .double

end TreeQuery.Json
