import CloudBilling.Dict
import CloudBilling.Text.Double

/-!
# JSON values

Values as they are read from documents and exchanged between representations. An object that
was read lists its entries in ascending order of key; an object that is about to be printed
lists them in the order in which they are to appear.
-/

namespace CloudBilling.Json

/-- A number: an integer of 64 bits, signed or unsigned, or a double with its sign. -/
inductive Number where
  | integer (value : Int)
  | double (negative : Bool) (magnitude : Text.Double)
  deriving DecidableEq, Repr

/-- A JSON value. -/
inductive Value where
  | null
  | bool (flag : Bool)
  | number (number : Number)
  | string (text : String)
  | array (elements : List Value)
  | object (entries : List (String × Value))
  deriving Repr, Inhabited

namespace Value

mutual

/-- Decides whether two values are equal. -/
def decEq : (left right : Value) → Decidable (left = right)
  | .null, .null => isTrue rfl
  | .bool left, .bool right => decidable_of_iff (left = right) (by simp)
  | .number left, .number right => decidable_of_iff (left = right) (by simp)
  | .string left, .string right => decidable_of_iff (left = right) (by simp)
  | .array left, .array right =>
      match decEqElements left right with
      | isTrue same => isTrue (by rw [same])
      | isFalse differ => isFalse (by simpa using differ)
  | .object left, .object right =>
      match decEqEntries left right with
      | isTrue same => isTrue (by rw [same])
      | isFalse differ => isFalse (by simpa using differ)
  | .null, .bool _ | .null, .number _ | .null, .string _ | .null, .array _ | .null, .object _
  | .bool _, .null | .bool _, .number _ | .bool _, .string _ | .bool _, .array _
  | .bool _, .object _ | .number _, .null | .number _, .bool _ | .number _, .string _
  | .number _, .array _ | .number _, .object _ | .string _, .null | .string _, .bool _
  | .string _, .number _ | .string _, .array _ | .string _, .object _ | .array _, .null
  | .array _, .bool _ | .array _, .number _ | .array _, .string _ | .array _, .object _
  | .object _, .null | .object _, .bool _ | .object _, .number _ | .object _, .string _
  | .object _, .array _ => isFalse (by simp)

/-- Decides whether two lists of values are equal. -/
def decEqElements : (left right : List Value) → Decidable (left = right)
  | [], [] => isTrue rfl
  | [], _ :: _ => isFalse (by simp)
  | _ :: _, [] => isFalse (by simp)
  | left :: lefts, right :: rights =>
      match decEq left right, decEqElements lefts rights with
      | isTrue sameHead, isTrue sameTail => isTrue (by rw [sameHead, sameTail])
      | isFalse differ, _ => isFalse (by simp [differ])
      | _, isFalse differ => isFalse (by simp [differ])

/-- Decides whether two lists of entries are equal. -/
def decEqEntries : (left right : List (String × Value)) → Decidable (left = right)
  | [], [] => isTrue rfl
  | [], _ :: _ => isFalse (by simp)
  | _ :: _, [] => isFalse (by simp)
  | (leftKey, left) :: lefts, (rightKey, right) :: rights =>
      if sameKey : leftKey = rightKey then
        match decEq left right, decEqEntries lefts rights with
        | isTrue sameHead, isTrue sameTail => isTrue (by rw [sameKey, sameHead, sameTail])
        | isFalse differ, _ => isFalse (by simp [differ])
        | _, isFalse differ => isFalse (by simp [differ])
      else isFalse (by simp [sameKey])

end

instance : DecidableEq Value := decEq

/-- The short name of a value's shape. -/
def kind : Value → String
  | .null => "null"
  | .bool _ => "bool"
  | .number _ => "number"
  | .string _ => "string"
  | .array _ => "array"
  | .object _ => "map"

/-- The text of a string value. -/
def string? : Value → Option String
  | .string text => some text
  | _ => none

/-- The flag of a boolean value. -/
def bool? : Value → Option Bool
  | .bool flag => some flag
  | _ => none

/-- The elements of an array. -/
def array? : Value → Option (List Value)
  | .array elements => some elements
  | _ => none

/-- The entries of an object. -/
def object? : Value → Option (Dict Value)
  | .object entries => some entries
  | _ => none

/-- Null and the empty string, array and object hold nothing; every boolean and number counts
as content. -/
def isEmpty : Value → Bool
  | .null => true
  | .string text => text = ""
  | .array elements => elements.isEmpty
  | .object entries => entries.isEmpty
  | .bool _ | .number _ => false

mutual

/-- Every object inside the value, itself included, lists its entries in ascending order. -/
def Ordered : Value → Prop
  | .array elements => OrderedElements elements
  | .object entries => Dict.Ascending entries ∧ OrderedEntries entries
  | _ => True

/-- Each of the values is ordered. -/
def OrderedElements : List Value → Prop
  | [] => True
  | value :: rest => value.Ordered ∧ OrderedElements rest

/-- Each value of the entries is ordered. -/
def OrderedEntries : List (String × Value) → Prop
  | [] => True
  | (_, value) :: rest => value.Ordered ∧ OrderedEntries rest

end

end Value

/-- A value under a key is smaller than the map it stands in. -/
theorem sizeOf_lt_of_get? {entries : Dict Value} {key : String} {value : Value}
    (found : entries.get? key = some value) : sizeOf value < sizeOf entries := by
  have member := Dict.mem_of_get? found
  have bound := List.sizeOf_lt_of_mem member
  simp only [Prod.mk.sizeOf_spec] at bound
  omega

end CloudBilling.Json
