/-!
# Double-precision numbers

The finite numbers of the IEEE 754 format binary64, as exact values: a sign and a natural number
times a power of two. All arithmetic is exact arithmetic on natural numbers followed by one
rounding, to the nearest double and in a tie to the one with the even mantissa.

## Main definitions

* `TreeQuery.Binary64` — a finite double.
* `TreeQuery.Binary64.ofRatio?` — the double nearest to a quotient of natural numbers.
* `TreeQuery.Binary64.mul?`, `TreeQuery.Binary64.div?` — rounded product and quotient.

A result that would be infinite is `none`.
-/

namespace TreeQuery

/-- A finite double: `mantissa * 2 ^ exponent`, negated if `negative`. A mantissa has at most 53
bits, and fewer only if the exponent is the least one, `-1074`. -/
structure Binary64 where
  /-- Whether the sign is minus; zero comes with both signs. -/
  negative : Bool
  /-- The mantissa, below `2 ^ 53`. -/
  mantissa : Nat
  /-- The exponent of two, from `-1074` to `971`. -/
  exponent : Int
  deriving DecidableEq, Repr

namespace Binary64

/-- The least exponent. -/
def leastExponent : Int := -1074

/-- The greatest exponent of a finite double. -/
def greatestExponent : Int := 971

/-- Zero with the given sign. -/
def zero (negative : Bool) : Binary64 := ⟨negative, 0, leastExponent⟩

/-- The quotient rounded to the nearest natural number, a tie to the even neighbour. -/
def roundQuotient (num den : Nat) : Nat :=
  let low := num / den
  let twice := 2 * (num % den)
  if den < twice ∨ (twice = den ∧ low % 2 = 1) then low + 1 else low

/-- `num / den * 2 ^ shift` as a quotient of natural numbers. -/
def scaleRatio (num den : Nat) (shift : Int) : Nat × Nat :=
  match shift with
  | .ofNat k => (num * Nat.pow 2 k, den)
  | .negSucc k => (num, den * Nat.pow 2 (k + 1))

/-- The greatest `k` with `2 ^ k ≤ num / den`, for positive `num` and `den`. -/
def floorLog (num den : Nat) : Int :=
  let guess : Int := (Nat.log2 num : Int) - (Nat.log2 den : Int)
  let scaled := scaleRatio num den (-guess)
  if scaled.2 ≤ scaled.1 then guess else guess - 1

/-- The double nearest to `num / den`, positive or zero; none if that is beyond all doubles. -/
def ofRatio? (num den : Nat) : Option Binary64 :=
  if num = 0 then some (zero false)
  else
    let exponent := max (floorLog num den - 52) leastExponent
    let scaled := scaleRatio num den (-exponent)
    let mantissa := roundQuotient scaled.1 scaled.2
    let rounded : Binary64 :=
      if mantissa = Nat.pow 2 53 then ⟨false, Nat.pow 2 52, exponent + 1⟩
      else ⟨false, mantissa, exponent⟩
    if greatestExponent < rounded.exponent then none else some rounded

/-- The magnitude as a quotient of natural numbers. -/
def ratio (x : Binary64) : Nat × Nat := scaleRatio x.mantissa 1 x.exponent

/-- The rounded product of two magnitudes. -/
def mul? (x y : Binary64) : Option Binary64 :=
  ofRatio? (x.ratio.1 * y.ratio.1) (x.ratio.2 * y.ratio.2)

/-- The rounded quotient of two magnitudes, the second not being zero. -/
def div? (x y : Binary64) : Option Binary64 :=
  ofRatio? (x.ratio.1 * y.ratio.2) (x.ratio.2 * y.ratio.1)

/-- The double nearest to a power of ten. -/
def powerOfTen? (k : Nat) : Option Binary64 := ofRatio? (Nat.pow 10 k) 1

/-- The same magnitude with the given sign. -/
def withSign (negative : Bool) (x : Binary64) : Binary64 := { x with negative := negative }

end Binary64

end TreeQuery
