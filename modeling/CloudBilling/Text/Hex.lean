/-!
# Hexadecimal digits

Numbers and bytes written in lower case hexadecimal, and digits read back in either case.
-/

namespace CloudBilling.Text

/-- The lower case digit of a number below sixteen. -/
def hexDigit (n : Nat) : Char :=
  Char.ofNat (if n < 10 then 48 + n else 87 + n)

/-- The value of a hexadecimal digit in either case. -/
def hexValue? (c : Char) : Option Nat :=
  if c.isDigit then some (c.toNat - 48)
  else if 'a' ≤ c ∧ c ≤ 'f' then some (c.toNat - 87)
  else if 'A' ≤ c ∧ c ≤ 'F' then some (c.toNat - 55)
  else none

/-- The two digits of a byte. -/
def hexByte (n : Nat) : List Char :=
  [hexDigit (n / 16 % 16), hexDigit (n % 16)]

/-- The number that a run of hexadecimal digits spells. -/
def hexNumber? : List Char → Option Nat :=
  fun digits => digits.foldl
    (fun total digit => do return 16 * (← total) + (← hexValue? digit)) (some 0)

/-- A number in hexadecimal without leading zeros. -/
def hexNumeral (n : Nat) : List Char :=
  Nat.toDigits 16 n

end CloudBilling.Text
