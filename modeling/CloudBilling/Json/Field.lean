import CloudBilling.Failure

/-!
# Fields of untyped documents

Every decoder takes its fields out of a map through `field`, so a malformed map always fails in
one of two ways: a key is absent, or it holds a value of the wrong shape.
-/

namespace CloudBilling.Json

/-- A shape that a field can be asked for: its name in messages and its view of a value. -/
structure Shape (α : Type) where
  name : String
  view : Value → Option α

namespace Shape

def string : Shape String := ⟨"string", Value.string?⟩

def bool : Shape Bool := ⟨"bool", Value.bool?⟩

def map : Shape (Dict Value) := ⟨"map", Value.object?⟩

def array : Shape (List Value) := ⟨"array", Value.array?⟩

/-- Any value, null included. -/
def any : Shape Value := ⟨"any", some⟩

end Shape

variable {α : Type}

/-- The field under `key`, in the shape that is asked for. -/
def field (shape : Shape α) (entries : Dict Value) (key : String) : Outcome α :=
  match entries.get? key with
  | none => .fail (.missingKey key)
  | some value =>
      match shape.view value with
      | some content => .ok content
      | none => .fail (.typeMismatch key shape.name value.kind)

/-- The field under `key`, where an absent key and an explicit null both read as nothing. -/
def optionalField (shape : Shape α) (entries : Dict Value) (key : String) :
    Outcome (Option α) :=
  match entries.get? key with
  | none | some .null => .ok none
  | some _ => (field shape entries key).map some

/-- A string that may be left out; then it reads as the empty one. -/
def stringOrEmpty (entries : Dict Value) (key : String) : Outcome String :=
  (optionalField .string entries key).map (·.getD "")

/-- A value seen as a map. -/
def asMap (value : Value) : Outcome (Dict Value) :=
  match value.object? with
  | some entries => .ok entries
  | none => .fail (.notMap value.kind)

end CloudBilling.Json
