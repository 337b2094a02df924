/-!
# Double-precision numbers

A double-precision number is a whole number of at most 53 binary digits times a
power of two.  The number nearest to a fraction is found in exact arithmetic; of
two that are equally near the even one is taken.

* `Double.nearest?` is the number nearest to a fraction.
* `Double.ofScientific` reads a decimal.
-/

namespace GrammarAudit.Decimal

/-- A number that is not negative: a whole number times a power of two. -/
structure Double where
  mantissa : Nat
  exponent : Int
deriving DecidableEq, Repr, Inhabited

namespace Double

/-- The smallest exponent of a number. -/
def leastExponent : Int := -1074

/-- The largest exponent of a number. -/
def greatestExponent : Int := 971

/-- Mantissas are below this bound. -/
def mantissaBound : Nat := 1 <<< 53

/-- A power of ten. -/
def tenTo (n : Nat) : Nat := Nat.pow 10 n

/-- A fraction rounded to a whole number; a half goes to the even neighbour. -/
def roundEven (numerator denominator : Nat) : Nat :=
  let whole := numerator / denominator
  let rest := 2 * (numerator % denominator)
  if rest < denominator then whole
  else if denominator < rest then whole + 1
  else whole + whole % 2

/-- A fraction divided by a power of two, as numerator and denominator. -/
def scale (numerator denominator : Nat) (exponent : Int) : Nat × Nat :=
  if exponent < 0 then (numerator <<< exponent.natAbs, denominator)
  else (numerator, denominator <<< exponent.natAbs)

/-- The number nearest to a fraction; none if it is out of range. -/
def nearest? (numerator denominator : Nat) : Option Double :=
  if numerator = 0 then some ⟨0, leastExponent⟩
  else
    let guess : Int := (numerator.log2 : Int) - denominator.log2 - 53
    let fits (e : Int) : Bool :=
      let (n, d) := scale numerator denominator e
      n < d * mantissaBound
    let exponent := if fits guess then guess else if fits (guess + 1) then guess + 1 else guess + 2
    let exponent := max exponent leastExponent
    let (n, d) := scale numerator denominator exponent
    let mantissa := roundEven n d
    let rounded : Double :=
      if mantissa = mantissaBound then ⟨mantissaBound / 2, exponent + 1⟩ else ⟨mantissa, exponent⟩
    if greatestExponent < rounded.exponent then none else some rounded

/-- Beyond this power of ten a decimal is out of range or rounds to zero,
whatever its digits. -/
def exponentLimit : Int := 400

/-- The number nearest to `digits · 10 ^ exponent`, where `digits` has `count`
decimal digits; none if it is out of range. -/
def ofScientific (digits count : Nat) (exponent : Int) : Option Double :=
  if digits = 0 then some ⟨0, leastExponent⟩
  else if exponentLimit < exponent + count then none
  else if exponent + count < -exponentLimit then some ⟨0, leastExponent⟩
  else if exponent < 0 then nearest? digits (tenTo exponent.natAbs)
  else nearest? (digits * tenTo exponent.natAbs) 1

end Double

end GrammarAudit.Decimal
