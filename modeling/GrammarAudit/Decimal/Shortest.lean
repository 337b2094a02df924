import GrammarAudit.Decimal.Double

/-!
# Shortest decimals

A double-precision number is written with the fewest decimal digits that are
read back as it, and of those as near to it as they get; never with an exponent.

* `Double.shortest` are the digits and the power of ten.
* `Double.text` is the number as it is written.
-/

namespace GrammarAudit.Decimal

namespace Double

/-- A number between the ends of the fractions that round to it, as numerators
over a common denominator. -/
structure Interval where
  low : Nat
  value : Nat
  high : Nat
  denominator : Nat

/-- The fractions that round to a number that is not zero: up to half way to its
neighbours. -/
def interval (x : Double) : Interval :=
  let below := if x.mantissa = mantissaBound / 2 ∧ leastExponent < x.exponent then 1 else 2
  let low := 4 * x.mantissa - below
  let value := 4 * x.mantissa
  let high := 4 * x.mantissa + 2
  if x.exponent < 0 then ⟨low, value, high, 4 <<< x.exponent.natAbs⟩
  else
    let shift := x.exponent.natAbs
    ⟨low <<< shift, value <<< shift, high <<< shift, 4⟩

/-- The fraction `digits · 10 ^ power` lies in the interval; its ends belong to
it where the mantissa is even. -/
def Interval.holds (i : Interval) (even : Bool) (digits : Nat) (power : Int) : Bool :=
  let (n, d) :=
    if power < 0 then (digits * i.denominator, tenTo power.natAbs)
    else (digits * i.denominator * tenTo power.natAbs, 1)
  if even then i.low * d ≤ n && n ≤ i.high * d else i.low * d < n && n < i.high * d

/-- The neighbours of the number on the grid of multiples of a power of ten: the
one not above it, and whether the one above is nearer. -/
def Interval.neighbours (i : Interval) (power : Int) : Nat × Bool :=
  let (n, d) :=
    if power < 0 then (i.value * tenTo power.natAbs, i.denominator)
    else (i.value, i.denominator * tenTo power.natAbs)
  let below := n / d
  let rest := 2 * (n % d)
  (below, d < rest || (d == rest && below % 2 == 1))

/-- A point of a grid that rounds to the number, the nearest one first. -/
def Interval.onGrid? (i : Interval) (even : Bool) (power : Int) : Option Nat :=
  let (below, upwards) := i.neighbours power
  let near := if upwards then below + 1 else below
  let far := if upwards then below else below + 1
  if i.holds even near power then some near
  else if i.holds even far power then some far
  else none

/-- The first grid, from a power of ten downwards, with a point that rounds to
the number; the fuel bounds the number of grids. -/
def Interval.search (i : Interval) (even : Bool) : Nat → Int → Nat × Int
  | 0, power => ((i.neighbours power).1, power)
  | fuel + 1, power =>
    match i.onGrid? even power with
    | some digits => if digits = 0 then search i even fuel (power - 1) else (digits, power)
    | none => search i even fuel (power - 1)

/-- The fewest digits that are read back as the number, and the power of ten
they are multiplied with. -/
def shortest (x : Double) : Nat × Int :=
  if x.mantissa = 0 then (0, 0) else (interval x).search (x.mantissa % 2 == 0) 800 310

/-- The number as it is written: with a point, and at least one digit on both
sides of it. -/
def text (x : Double) : String :=
  let (digits, power) := x.shortest
  let ds := Nat.toDigits 10 digits
  if power < 0 then
    let places := power.natAbs
    let padded := List.replicate (places + 1 - ds.length) '0' ++ ds
    String.ofList (padded.take (padded.length - places) ++ '.' :: padded.drop (padded.length - places))
  else String.ofList (ds ++ List.replicate power.natAbs '0' ++ ['.', '0'])

end Double

end GrammarAudit.Decimal
