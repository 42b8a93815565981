import TreeQuery.Number.Binary64
import TreeQuery.Text.Basic

/-!
# The shortest decimal form of a double

A double is written with the fewest decimal digits that are still nearest to it, and among those
with the digits closest to its value; of two decimals equally close it is the one with an even last
digit. Integral values keep a fraction of one zero, and very large and very small values are written
with an exponent.

## Main definitions

* `TreeQuery.Binary64.shortest` — digits and power of ten of the shortest decimal.
* `TreeQuery.Binary64.render` — the written form.
-/

namespace TreeQuery.Binary64

/-- The reals that round to a double, as quotients over one denominator: the lower end, the value
and the upper end, and whether the two ends belong to it. -/
structure Interval where
  low : Nat
  value : Nat
  high : Nat
  denominator : Nat
  closed : Bool

/-- The interval of the reals that round to a positive double. Half the distance to the next
double below is smaller at a power of two, and the ends round to an even mantissa. -/
def interval (x : Binary64) : Interval :=
  let unit := scaleRatio 1 1 (x.exponent - 2)
  let below := if x.mantissa = Nat.pow 2 52 ∧ leastExponent < x.exponent then 1 else 2
  { low := (4 * x.mantissa - below) * unit.1
    value := 4 * x.mantissa * unit.1
    high := (4 * x.mantissa + 2) * unit.1
    denominator := unit.2
    closed := x.mantissa % 2 == 0 }

/-- Whether `count * 10 ^ power` lies in the interval. -/
def Interval.holds (i : Interval) (count : Nat) (power : Int) : Bool :=
  let point : Nat × Nat := match power with
    | .ofNat k => (count * Nat.pow 10 k * i.denominator, 1)
    | .negSucc k => (count * i.denominator, Nat.pow 10 (k + 1))
  if i.closed then i.low * point.2 ≤ point.1 && point.1 ≤ i.high * point.2
  else i.low * point.2 < point.1 && point.1 < i.high * point.2

/-- The value of the interval in units of `10 ^ power`: the whole units, what is left of the
value, and the unit, the latter two over a common denominator. -/
def Interval.divide (i : Interval) (power : Int) : Nat × Nat × Nat :=
  let parts : Nat × Nat := match power with
    | .ofNat k => (i.value, i.denominator * Nat.pow 10 k)
    | .negSucc k => (i.value * Nat.pow 10 (k + 1), i.denominator)
  (parts.1 / parts.2, parts.1 % parts.2, parts.2)

/-- The neighbour of the value on the grid of multiples of `10 ^ power` that lies in the interval,
the nearer one if both do, and in a tie the even one. -/
def Interval.onGrid? (i : Interval) (power : Int) : Option Nat :=
  let (units, left, unit) := i.divide power
  match i.holds units power, i.holds (units + 1) power with
  | true, true =>
    some (if 2 * left < unit ∨ (2 * left = unit ∧ units % 2 = 0) then units else units + 1)
  | true, false => some units
  | false, true => some (units + 1)
  | false, false => none

/-- The first of `steps` grids, each ten times finer than the one before, that has a multiple in
the interval. -/
def Interval.search (i : Interval) : (steps : Nat) → (power : Int) → Nat × Int
  | 0, power => ((i.divide power).1, power)
  | steps + 1, power =>
    match i.onGrid? power with
    | some count => (count, power)
    | none => i.search steps (power - 1)

/-- Whole number and power of ten of the shortest decimal of a positive double. The search starts
at a power of ten above the double and comes down through all grids to seventeen digits. -/
def shortest (x : Binary64) : Nat × Int :=
  let start : Int := (Nat.log2 x.mantissa + x.exponent) * 3 / 10 + 2
  x.interval.search 24 start

/-- A digit string as a decimal fraction: positional if the point falls within the digits or at
most a few zeros away from them, else with an exponent. -/
def layout (digits : Text) (power : Int) : Text :=
  let point : Int := digits.length + power
  if 0 ≤ power ∧ point ≤ 16 then digits ++ List.replicate power.toNat '0' ++ ['.', '0']
  else if 0 < point ∧ point ≤ 16 then
    digits.take point.toNat ++ ['.'] ++ digits.drop point.toNat
  else if -5 < point ∧ point ≤ 0 then
    ['0', '.'] ++ List.replicate (-point).toNat '0' ++ digits
  else
    let fraction := match digits.drop 1 with
      | [] => []
      | rest => '.' :: rest
    let magnitude := Nat.toDigits 10 (point - 1).natAbs
    digits.take 1 ++ fraction ++ ['e', if point < 1 then '-' else '+'] ++ magnitude

/-- The decimal digits of a positive number without the zeros at their end, and how many zeros
those were. -/
def significantDigits (count : Nat) : Text × Nat :=
  let digits := Nat.toDigits 10 count
  let kept := (digits.reverse.dropWhile (· == '0')).reverse
  (kept, digits.length - kept.length)

/-- The written form of a double. -/
def render (x : Binary64) : Text :=
  let sign : Text := if x.negative then ['-'] else []
  if x.mantissa = 0 then sign ++ ['0', '.', '0']
  else
    let (count, power) := x.shortest
    let (digits, zeros) := significantDigits count
    sign ++ layout digits (power + zeros)

end TreeQuery.Binary64
