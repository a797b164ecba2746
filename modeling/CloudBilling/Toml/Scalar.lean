import CloudBilling.Text.Hex
import CloudBilling.Text.Numeral
import CloudBilling.Toml.Value

/-!
# Numbers, flags and moments of TOML

A value that is neither a text nor a container is one word, or a date and a time with a space
between them.
-/

namespace CloudBilling.Toml

/-- A character of a word. -/
def isWordChar (c : Char) : Bool :=
  c.isAlphanum || c = '+' || c = '-' || c = '_' || c = '.' || c = ':'

/-- Digits with single underscores between them, without the underscores. -/
def readDigits (isDigit : Char → Bool) : List Char → Option (List Char)
  | [] => none
  | [c] => if isDigit c then some [c] else none
  | c :: '_' :: rest => if isDigit c then (readDigits isDigit rest).map (c :: ·) else none
  | c :: rest => if isDigit c then (readDigits isDigit rest).map (c :: ·) else none

/-- The sign of a word, and the rest. -/
def readSign : List Char → Bool × List Char
  | '-' :: rest => (true, rest)
  | '+' :: rest => (false, rest)
  | word => (false, word)

/-- Decimal digits of which the first is no zero unless it stands alone. -/
def readDecimal (word : List Char) : Option (List Char) := do
  let digits ← readDigits Char.isDigit word
  if digits.head? = some '0' ∧ word.length ≠ 1 then none else some digits

/-- Whether a digit belongs to a base of at most sixteen. -/
def isDigitOf (base : Nat) (c : Char) : Bool :=
  (Text.hexValue? c).any (· < base)

/-- A number in a base, if it is less than 2 ^ 63. -/
def readInBase (base : Nat) (word : List Char) : Option Int := do
  let digits ← readDigits (isDigitOf base) word
  let value := digits.foldl (fun total c => base * total + (Text.hexValue? c).getD 0) 0
  if value < Nat.pow 2 63 then some value else none

/-- The integer that a word is, if it fits in 64 bits with its sign. -/
def integer? : List Char → Option Int
  | '0' :: 'x' :: rest => readInBase 16 rest
  | '0' :: 'o' :: rest => readInBase 8 rest
  | '0' :: 'b' :: rest => readInBase 2 rest
  | word => do
      let (negative, rest) := readSign word
      let magnitude := Text.decimalNumber (← readDecimal rest)
      if negative then
        if magnitude ≤ Nat.pow 2 63 then some (-(magnitude : Int)) else none
      else if magnitude < Nat.pow 2 63 then some magnitude else none

/-- Whether a character starts an exponent. -/
def isExponentMark (c : Char) : Bool :=
  c = 'e' || c = 'E'

/-- Whether a word without its sign is a number with a fraction or an exponent; one with a plus
sign or none must not be beyond the greatest double. -/
def isDecimalFloat (negative : Bool) (word : List Char) : Bool :=
  let mantissa := word.takeWhile fun c => !isExponentMark c
  let exponent := (word.dropWhile fun c => !isExponentMark c).drop 1
  let whole := mantissa.takeWhile (· ≠ '.')
  let fraction := (mantissa.dropWhile (· ≠ '.')).drop 1
  let hasFraction := mantissa.contains '.'
  let hasExponent := word.any isExponentMark
  let (down, exponentDigits) := readSign exponent
  let read := do
    let whole ← readDecimal whole
    let fraction ← if hasFraction then readDigits Char.isDigit fraction else some []
    let power ← if hasExponent then readDigits Char.isDigit exponentDigits else some []
    let scale : Int := if down then -(Text.decimalNumber power) else Text.decimalNumber power
    some (Text.decimalNumber (whole ++ fraction), scale - fraction.length)
  match read with
  | none => false
  | some (significand, scale) =>
      (hasFraction || hasExponent) && (negative || Text.fitsDouble significand scale)

/-- Whether a word is a number that is no integer. -/
def isFloat (word : List Char) : Bool :=
  let (negative, rest) := readSign word
  rest = "inf".toList || rest = "nan".toList || isDecimalFloat negative rest

/-- A two-digit number in a range. -/
def isField (low high : Nat) (tens ones : Char) : Bool :=
  let value := Text.decimalNumber [tens, ones]
  tens.isDigit && ones.isDigit && low ≤ value && value ≤ high

/-- The number of days in a month. -/
def daysIn (year month : Nat) : Nat :=
  if month = 2 then
    if year % 4 = 0 ∧ (year % 100 ≠ 0 ∨ year % 400 = 0) then 29 else 28
  else if month = 4 ∨ month = 6 ∨ month = 9 ∨ month = 11 then 30
  else 31

/-- Drop a date at the front. -/
def skipDate : List Char → Option (List Char)
  | a :: b :: c :: d :: '-' :: e :: f :: '-' :: g :: h :: rest =>
      let year := Text.decimalNumber [a, b, c, d]
      let month := Text.decimalNumber [e, f]
      if [a, b, c, d].all Char.isDigit && isField 1 12 e f && isField 1 (daysIn year month) g h then
        some rest
      else none
  | _ => none

/-- Drop a fraction of a second at the front, if there is one. -/
def skipFraction : List Char → Option (List Char)
  | '.' :: rest =>
      if rest.head?.any Char.isDigit then some (rest.dropWhile Char.isDigit) else none
  | word => some word

/-- Drop a time of day at the front; a minute can have a leap second. -/
def skipTime : List Char → Option (List Char)
  | a :: b :: ':' :: c :: d :: ':' :: e :: f :: rest =>
      if isField 0 23 a b && isField 0 59 c d && isField 0 60 e f then skipFraction rest else none
  | _ => none

/-- Whether a word is the offset of a time zone, or nothing. -/
def isOffset : List Char → Bool
  | [] => true
  | [c] => c = 'Z' || c = 'z'
  | [sign, a, b, ':', c, d] => (sign = '+' || sign = '-') && isField 0 23 a b && isField 0 59 c d
  | _ => false

/-- Whether a word is a time of day with an offset that may be left out. -/
def isTimeWithOffset (word : List Char) : Bool :=
  (skipTime word).any isOffset

/-- Whether a word is a date, a time, or both with a letter between them. -/
def isMoment (word : List Char) : Bool :=
  match skipDate word with
  | some [] => true
  | some (mark :: rest) => (mark = 'T' || mark = 't') && isTimeWithOffset rest
  | none => skipTime word = some []

/-- The value that a word is. -/
def scalar? (word : List Char) : Option Value :=
  if word = "true".toList then some (.boolean true)
  else if word = "false".toList then some (.boolean false)
  else if isMoment word then some (.moment (String.ofList word))
  else
    match integer? word with
    | some value => some (.integer value)
    | none => if isFloat word then some (.float (String.ofList word)) else none

/-- A word off the front of a text, or a date and a time with a space between them. -/
def readScalar (text : List Char) : Option (Value × List Char) :=
  let word := text.takeWhile isWordChar
  let rest := text.dropWhile isWordChar
  let time := (rest.drop 1).takeWhile isWordChar
  if skipDate word = some [] ∧ rest.head? = some ' ' ∧ isTimeWithOffset time then
    some (.moment (String.ofList (word ++ ' ' :: time)), (rest.drop 1).dropWhile isWordChar)
  else (scalar? word).map (·, rest)

end CloudBilling.Toml
