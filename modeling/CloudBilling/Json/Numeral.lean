import CloudBilling.Json.Value
import CloudBilling.Text.Numeral

/-!
# Numerals of JSON texts

A numeral without fraction and exponent that fits in 64 bits is an integer. Every other one is a
double, found in a few roundings: of its digits, as many as fit in 64 bits are rounded to a
double, which is then multiplied or divided by rounded powers of ten. So the double is near to
the numeral, but not always the nearest one. A numeral whose double is not finite is refused.
-/

namespace CloudBilling.Json

/-- A numeral cut into its parts. -/
structure Numeral where
  negative : Bool
  whole : List Char
  /-- The digits after the point, when there is a point. -/
  fraction : Option (List Char)
  /-- The sign and digits of the exponent, when there is one. -/
  exponent : Option (Bool × List Char)

namespace Numeral

/-- The digits of the whole part: one digit, or several that do not start with a zero. -/
def readWhole (text : List Char) : Option (List Char × List Char) :=
  match text with
  | '0' :: rest =>
      match rest with
      | c :: _ => if c.isDigit then none else some (['0'], rest)
      | [] => some (['0'], rest)
  | _ =>
      let digits := text.takeWhile Char.isDigit
      if digits.isEmpty then none else some (digits, text.dropWhile Char.isDigit)

/-- The digits after a point, if a point follows; there must be at least one. -/
def readFraction : List Char → Option (Option (List Char) × List Char)
  | '.' :: rest =>
      let digits := rest.takeWhile Char.isDigit
      if digits.isEmpty then none else some (some digits, rest.dropWhile Char.isDigit)
  | text => some (none, text)

/-- The digits of an exponent after its sign; there must be at least one. -/
def readExponentDigits (negative : Bool) (text : List Char) :
    Option ((Option (Bool × List Char)) × List Char) :=
  let digits := text.takeWhile Char.isDigit
  if digits.isEmpty then none else some (some (negative, digits), text.dropWhile Char.isDigit)

/-- The exponent, if one follows. -/
def readExponent : List Char → Option ((Option (Bool × List Char)) × List Char)
  | c :: rest =>
      if c = 'e' || c = 'E' then
        match rest with
        | '+' :: rest => readExponentDigits false rest
        | '-' :: rest => readExponentDigits true rest
        | _ => readExponentDigits false rest
      else some (none, c :: rest)
  | [] => some (none, [])

/-- A numeral off the front of a text. -/
def read (text : List Char) : Option (Numeral × List Char) := do
  let (negative, text) := match text with
    | '-' :: rest => (true, rest)
    | _ => (false, text)
  let (whole, text) ← readWhole text
  let (fraction, text) ← readFraction text
  let (exponent, text) ← readExponent text
  some ({ negative, whole, fraction, exponent }, text)

/-- The integer that the numeral is, when it has no fraction or exponent and fits in 64 bits.
A zero with a minus sign is no integer. -/
def integer? (numeral : Numeral) : Option Int :=
  if numeral.fraction.isSome || numeral.exponent.isSome then none
  else
    let magnitude := Text.decimalNumber numeral.whole
    if numeral.negative then
      if 0 < magnitude ∧ magnitude ≤ Nat.pow 2 63 then some (-(magnitude : Int)) else none
    else if magnitude < Nat.pow 2 64 then some magnitude else none

/-- Append digits to a number as long as it fits in 64 bits; the digits that do not fit are
counted. -/
def collect : Nat → List Char → Nat × Nat
  | total, [] => (total, 0)
  | total, digit :: rest =>
      let extended := 10 * total + Text.decimalNumber [digit]
      if extended < Nat.pow 2 64 then collect extended rest else (total, rest.length + 1)

/-- The power of ten that the exponent names. -/
def scale (numeral : Numeral) : Int :=
  match numeral.exponent with
  | some (true, digits) => -(Text.decimalNumber digits : Int)
  | some (false, digits) => Text.decimalNumber digits
  | none => 0

/-- The digits that count, as a number, and the power of ten that goes with it. -/
def significand (numeral : Numeral) : Nat × Int :=
  let fraction := numeral.fraction.getD []
  let (whole, dropped) := collect 0 numeral.whole
  let (digits, ignored) := collect whole fraction
  (digits, numeral.scale + dropped - (fraction.length - ignored : Nat))

/-- Divide a double by a power of ten, 308 powers at a time. -/
def scaleDown (double : Text.Double) (power : Nat) : Option Text.Double :=
  if power ≤ 308 then do
    double.div? (← Text.Double.ofNat? (Nat.pow 10 power))
  else if double.mantissa = 0 then some double
  else do
    let reduced ← double.div? (← Text.Double.ofNat? (Nat.pow 10 308))
    scaleDown reduced (power - 308)
termination_by power

/-- The absolute value of the double that a numeral stands for, if that is finite. -/
def double? (numeral : Numeral) : Option Text.Double := do
  let (digits, power) := numeral.significand
  let double ← Text.Double.ofNat? digits
  if power < 0 then scaleDown double (-power).toNat
  else if power ≤ 308 then double.mul? (← Text.Double.ofNat? (Nat.pow 10 power.toNat))
  else if double.mantissa = 0 then some double
  else none

/-- The number that a numeral stands for, unless it is too large. -/
def number? (numeral : Numeral) : Option Number :=
  match numeral.integer? with
  | some value => some (.integer value)
  | none => numeral.double?.map (.double numeral.negative)

end Numeral

end CloudBilling.Json
