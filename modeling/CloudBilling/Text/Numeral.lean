/-!
# Decimal numerals

Runs of digits, and the one limit that a reader sets on a numeral: the double nearest to it
must be finite.
-/

namespace CloudBilling.Text

/-- The number that a run of decimal digits spells. -/
def decimalNumber (digits : List Char) : Nat :=
  digits.foldl (fun total digit => 10 * total + (digit.toNat - 48)) 0

/-- The least number that rounds to infinity: half a unit beyond the greatest double. -/
def doubleLimit : Nat :=
  Nat.pow 2 1024 - Nat.pow 2 970

/-- Whether `significand · 10 ^ exponent` rounds to a finite double. The digit count settles all
but three exponents, so no large power is computed for a numeral with a large exponent. -/
def fitsDouble (significand : Nat) (exponent : Int) : Bool :=
  let magnitude := (Nat.repr significand).length + exponent
  if significand = 0 ∨ magnitude ≤ 308 then true
  else if magnitude > 310 then false
  else if 0 ≤ exponent then significand * Nat.pow 10 exponent.toNat < doubleLimit
  else significand < doubleLimit * Nat.pow 10 (-exponent).toNat

end CloudBilling.Text
