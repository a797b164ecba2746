import CloudBilling.Text.Double

/-!
# Shortest decimal texts of doubles

The shortest text of a double has the fewest digits that still lie nearer to it than to every
other double; among those it is the one nearest to the double. The digits are found on the
decimal grids of 1, 2, … 17 digits in exact arithmetic.
-/

namespace CloudBilling.Text

/-- The number `digits · 10 ^ exponent`. -/
structure Decimal where
  digits : Nat
  exponent : Int
  deriving DecidableEq, Repr

namespace Double

/-- The reals that round to a double, as numerators over one denominator. -/
structure Interval where
  lower : Nat
  value : Nat
  upper : Nat
  denominator : Nat
  /-- Whether the ends belong to it. -/
  closed : Bool

/-- The reals that round to a double. Below a power of two the doubles are twice as dense. -/
def interval (double : Double) : Interval :=
  let unit := Nat.pow 2 (double.exponent - 2).toNat
  let quarters := 4 * double.mantissa
  let below := if double.mantissa = Nat.pow 2 52 ∧ leastExponent < double.exponent then 1 else 2
  { lower := (quarters - below) * unit
    value := quarters * unit
    upper := (quarters + 2) * unit
    denominator := Nat.pow 2 (2 - double.exponent).toNat
    closed := double.mantissa % 2 = 0 }

namespace Interval

/-- A decimal over the interval's denominator times a second one. -/
def place (interval : Interval) (decimal : Decimal) : Nat × Nat :=
  (decimal.digits * Nat.pow 10 decimal.exponent.toNat * interval.denominator,
    Nat.pow 10 (-decimal.exponent).toNat)

/-- Whether a decimal rounds to the double. -/
def contains (interval : Interval) (decimal : Decimal) : Bool :=
  let (point, scale) := interval.place decimal
  if interval.closed then interval.lower * scale ≤ point ∧ point ≤ interval.upper * scale
  else interval.lower * scale < point ∧ point < interval.upper * scale

/-- The position of the first digit of the value: the least power of ten above the value. -/
def magnitude (interval : Interval) : Int :=
  (Nat.repr (interval.value * Nat.pow 10 330 / interval.denominator)).length - 330

/-- The decimal with a number of digits that is nearest to the value, if it rounds to the
double. Of two that are equally near it is the even one. -/
def onGrid? (interval : Interval) (count : Nat) : Option Decimal :=
  let exponent := interval.magnitude - count
  let scaled := interval.value * Nat.pow 10 (-exponent).toNat
  let step := interval.denominator * Nat.pow 10 exponent.toNat
  let digits := scaled / step
  let low : Decimal := ⟨digits, exponent⟩
  let high : Decimal :=
    if digits + 1 = Nat.pow 10 count then ⟨Nat.pow 10 (count - 1), exponent + 1⟩
    else ⟨digits + 1, exponent⟩
  match interval.contains low, interval.contains high with
  | true, true =>
      let excess := 2 * (scaled % step)
      if excess < step ∨ (excess = step ∧ digits % 2 = 0) then some low else some high
  | true, false => some low
  | false, true => some high
  | false, false => none

end Interval

/-- The shortest decimal that rounds to a double. -/
def shortest (double : Double) : Decimal :=
  if double.mantissa = 0 then ⟨0, 0⟩
  else
    ((List.range' 1 17).findSome? double.interval.onGrid?).getD ⟨double.mantissa, 0⟩

end Double

/-- A decimal with all its zeros written out and at least one digit on both sides of the
point. -/
def Decimal.positional (decimal : Decimal) : List Char :=
  let digits := (Nat.repr decimal.digits).toList
  if 0 ≤ decimal.exponent then
    digits ++ List.replicate decimal.exponent.toNat '0' ++ ['.', '0']
  else
    let places := (-decimal.exponent).toNat
    let padded := List.replicate (places + 1 - digits.length) '0' ++ digits
    padded.take (padded.length - places) ++ '.' :: padded.drop (padded.length - places)

/-- A decimal with one digit before the point and a power of ten with its sign; a lone digit has
no point. -/
def Decimal.scientific (decimal : Decimal) : List Char :=
  match (Nat.repr decimal.digits).toList with
  | [] => []
  | first :: rest =>
      let power := decimal.exponent + rest.length
      first :: (if rest.isEmpty then [] else '.' :: rest) ++
        'e' :: (if power < 0 then '-' else '+') :: (Nat.repr power.natAbs).toList

end CloudBilling.Text
