import CloudBilling.Json.Mismatch

/-!
# Layouts of legacy records

Legacy records are flat: their fields are texts, and in one case a map of texts. A record is
written as an object, whose absent fields are empty and whose unknown entries are ignored, or as
an array of its fields in order, of which the last ones may be left out.
-/

namespace CloudBilling.Integration.Legacy

open Json (Value Fault)

/-- A reader of one field that changes a record. -/
abbrev FieldReader (ρ : Type) := ρ → Value → Except Fault ρ

/-- The fields of a record type, in order, and its name in reports. -/
structure Layout (ρ : Type) where
  typeName : String
  blank : ρ
  fields : List (String × FieldReader ρ)

/-- A field that holds a text. -/
def textField {ρ : Type} (change : ρ → String → ρ) : FieldReader ρ :=
  fun record value => return change record (← Json.textOf value)

/-- The values of a map that must all be texts. -/
def textEntries : List (String × Value) → Except Fault (List (String × String))
  | [] => .ok []
  | (name, value) :: rest => do
      let text ← Json.textOf value
      return (name, text) :: (← textEntries rest)

/-- A field that holds a map of texts. -/
def mapField {ρ : Type} (change : ρ → Dict String → ρ) : FieldReader ρ :=
  fun record value =>
    match value with
    | .object entries => return change record (← textEntries entries)
    | other => .error (Json.mismatch other "a map")

namespace Layout

variable {ρ : Type}

/-- Read the entries of an object in their order; unknown names are ignored. -/
def readEntries (layout : Layout ρ) : ρ → List (String × Value) → Except Fault ρ
  | record, [] => .ok record
  | record, (name, value) :: rest =>
      match layout.fields.lookup name with
      | none => layout.readEntries record rest
      | some read => do layout.readEntries (← read record value) rest

/-- Read the elements of an array into the fields in order; elements beyond the last field are
left over. -/
def readElements : List (String × FieldReader ρ) → ρ → List Value → Except Fault (ρ × List Value)
  | (_, read) :: fields, record, value :: rest => do
      readElements fields (← read record value) rest
  | _, record, rest => .ok (record, rest)

/-- Read a record out of a value. -/
def read (layout : Layout ρ) : Value → Except Fault ρ
  | .object entries => layout.readEntries layout.blank entries
  | .array elements => do
      let (record, rest) ← readElements layout.fields layout.blank elements
      if rest.isEmpty then return record
      else .error (.unfit s!"invalid length {elements.length}, expected fewer elements in array")
  | other => .error (Json.mismatch other s!"struct {layout.typeName}")

end Layout

end CloudBilling.Integration.Legacy
