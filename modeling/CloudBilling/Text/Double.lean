/-!
# Doubles

The finite doubles that are not negative, as an integral mantissa of at most 53 bits times a
power of two. Every result is the double nearest to the exact one, and of two that are equally
near the one with the even mantissa; a result beyond the greatest double is refused.
-/

namespace CloudBilling.Text

/-- The double `mantissa · 2 ^ exponent`. -/
structure Double where
  mantissa : Nat
  exponent : Int
  deriving DecidableEq, Repr

namespace Double

/-- The exponent of the least positive double. -/
def leastExponent : Int := -1074

/-- The exponent of the greatest double. -/
def greatestExponent : Int := 971

def zero : Double :=
  ⟨0, leastExponent⟩

/-- The integer nearest to a fraction; a half goes to the even neighbour. -/
def roundDiv (numerator denominator : Nat) : Nat :=
  let whole := numerator / denominator
  let twice := 2 * (numerator % denominator)
  if twice < denominator ∨ (twice = denominator ∧ whole % 2 = 0) then whole else whole + 1

/-- The fraction `numerator / denominator / 2 ^ exponent`. -/
def scaled (numerator denominator : Nat) (exponent : Int) : Nat × Nat :=
  (numerator * Nat.pow 2 (-exponent).toNat, denominator * Nat.pow 2 exponent.toNat)

/-- The double nearest to `numerator / denominator`, if that is finite. -/
def ofRatio? (numerator denominator : Nat) : Option Double :=
  if numerator = 0 then some zero
  else
    let low := (numerator.log2 : Int) - denominator.log2 - 53
    let (top, bottom) := scaled numerator denominator low
    let exponent := max leastExponent (if top / bottom < Nat.pow 2 53 then low else low + 1)
    let (top, bottom) := scaled numerator denominator exponent
    let mantissa := roundDiv top bottom
    let double : Double :=
      if mantissa = Nat.pow 2 53 then ⟨Nat.pow 2 52, exponent + 1⟩ else ⟨mantissa, exponent⟩
    if double.exponent ≤ greatestExponent then some double else none

/-- The double nearest to `mantissa · 2 ^ exponent / denominator`. -/
def ofQuotient? (mantissa : Nat) (exponent : Int) (denominator : Nat) : Option Double :=
  ofRatio? (mantissa * Nat.pow 2 exponent.toNat) (denominator * Nat.pow 2 (-exponent).toNat)

/-- The double nearest to an integer. -/
def ofNat? (n : Nat) : Option Double :=
  ofRatio? n 1

/-- The product of two doubles. -/
def mul? (left right : Double) : Option Double :=
  ofQuotient? (left.mantissa * right.mantissa) (left.exponent + right.exponent) 1

/-- The quotient of two doubles, of which the second is not zero. -/
def div? (left right : Double) : Option Double :=
  ofQuotient? left.mantissa (left.exponent - right.exponent) right.mantissa

end Double

end CloudBilling.Text
