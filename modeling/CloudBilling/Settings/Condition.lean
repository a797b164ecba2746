import CloudBilling.Text.Pattern

/-!
# Conditions on fields

A condition names a field that events or spans must have, and may give a value that the field
must have: a truth value, a number or a pattern.
-/

namespace CloudBilling

/-- A condition on a field. -/
structure Condition where
  name : String
  value : Option String
  deriving DecidableEq, Repr

namespace Condition

/-- The digits at the front of a number, with a point before, between or after them. -/
def dropSignificand (text : List Char) : Option (List Char) :=
  let rest := text.dropWhile Char.isDigit
  match rest with
  | '.' :: fraction =>
      let after := fraction.dropWhile Char.isDigit
      if text.length = rest.length && after.length = fraction.length then none else some after
  | _ => if text.length = rest.length then none else some rest

/-- Whether a text is nothing or a power of ten. -/
def isPower : List Char → Bool
  | [] => true
  | 'e' :: '+' :: digits | 'e' :: '-' :: digits | 'E' :: '+' :: digits | 'E' :: '-' :: digits
  | 'e' :: digits | 'E' :: digits => !digits.isEmpty && digits.all Char.isDigit
  | _ => false

/-- Whether a text is a number without its sign. Infinity is one, and so is what is no number. -/
def isNumber (text : List Char) : Bool :=
  ["inf", "infinity", "nan"].contains (String.ofList (text.map Char.toLower)) ||
    (dropSignificand text).any isPower

/-- Whether a text is a value. Truth values and most numbers are patterns as well; one that
starts with a plus is not. -/
def isValue (text : List Char) : Bool :=
  match text with
  | '+' :: number => isNumber number || Text.Pattern.isPattern text
  | _ => Text.Pattern.isPattern text

/-- Read a condition. What stands behind a second equality sign says nothing. -/
def read? (text : List Char) : Option Condition :=
  let name := String.ofList (text.takeWhile (· ≠ '='))
  match text.dropWhile (· ≠ '=') with
  | '=' :: rest =>
      let value := rest.takeWhile (· ≠ '=')
      if isValue value then some ⟨name, some (String.ofList value)⟩ else none
  | _ => some ⟨name, none⟩

end Condition

end CloudBilling
