import CloudBilling.Files.FileSystem
import CloudBilling.Integration.Legacy
import CloudBilling.Json.Reader

/-!
# Integration documents

A document is a map with one section for each kind of integration and, under `legacy`, one for
each type of legacy record. Every section may be left out. An entry that does not decode is
skipped with a warning, so that it does not hide the others; a section that is no list fails the
whole document.
-/

namespace CloudBilling.Integration.Document

open Json (Value)

/-- The name of a document in messages. -/
def documentName : String := "IntegrationDocument"

variable {α : Type}

/-- The entries of a section of a map; a section that is absent or null has none. -/
def sectionOf (entries : Dict Value) (name : String) : Outcome (List Value) :=
  (Json.optionalField .array entries name).map (·.getD [])

/-- Decode the values of a section from a position on, and skip those that do not decode. -/
def decodeFrom (name : String) (decode : Value → Decoder α) :
    Nat → List Value → Logged Event (List α)
  | _, [] => return []
  | index, value :: rest => do
      match ← (decode value).settle with
      | .ok content => return content :: (← decodeFrom name decode (index + 1) rest)
      | .error failure =>
          logEvent .warn .document s!"Skipping {name}[{index}]: {failure.message}"
          decodeFrom name decode (index + 1) rest

/-- Decode a section of a map. -/
def decodeSection (name : String) (decode : Value → Decoder α) (entries : Dict Value) :
    Decoder (List α) := do
  decodeFrom name decode 0 (← sectionOf entries name)

/-- Decode the section of a kind. -/
def decodeKind (entries : Dict Value) (kind : Kind) : Decoder (List Integration) := do
  let configs ← decodeSection kind.name (Config.decode kind) entries
  return configs.map fun config => ⟨kind, config⟩

/-- Read a legacy record out of a value. -/
def decodeRecord (form : Legacy.Form) (value : Value) : Decoder form.Info :=
  match form.read value with
  | .ok record => return record
  | .error fault => .fail (.ofCause (.json fault))

/-- Decode the section of a type of legacy record; empty records contribute nothing. -/
def decodeForm (entries : Dict Value) (form : Legacy.Form) : Decoder (List Integration) := do
  let records ← decodeSection form.name (decodeRecord form) entries
  return records.filterMap form.convert

/-- Decode the legacy sections of a document. -/
def decodeLegacy (entries : Dict Value) : Decoder (List Integration) := do
  match ← Json.optionalField .map entries "legacy" with
  | none => return []
  | some sections => return (← Legacy.Form.all.mapM (decodeForm sections)).flatten

/-- Decode every section of a document. -/
def decodeSections (entries : Dict Value) : Decoder (List Integration) := do
  let current ← Kind.all.mapM (decodeKind entries)
  let legacy ← decodeLegacy entries
  return current.flatten ++ legacy

/-- Decode a document from a source. -/
def decode (source : Source) (value : Value) : Decoder (List Entry) :=
  Attempt.within documentName do
    let entries ← Json.asMap value
    let integrations ← decodeSections entries
    logEvent .debug .document
      s!"Decoded {integrations.length} integration(s) from {source.name} document."
    return integrations.map (⟨source, ·⟩)

/-- Read a document from a text, which must hold nothing else. -/
def ofText (source : Source) (text : String) : Decoder (List Entry) :=
  match Json.read? text with
  | some value => decode source value
  | none => .fail (.ofCause (.json .malformed))

/-- Load a document from a file. -/
def load {m : Type → Type} [Monad m] (files : FileSystem m) (source : Source) (path : String) :
    m (Decoder (List Entry)) := do
  match ← files.readText path with
  | .ok text => return ofText source text
  | .error fault =>
      return .fail (.ofCause (.delegated s!"failed to read integration file {path}"
        (some fault.message)))

end CloudBilling.Integration.Document
