import CloudBilling.Credential.Envelope
import CloudBilling.Inspect

/-!
# GCP credentials

A GCP credential is the content of a service account's key file, which is a map of strings, or
the workload identity of the place where the program runs. A key file is secret as a whole; only
the names of its entries are ever shown.
-/

namespace CloudBilling.Gcp

open Json (Value)

/-- The tag of a key file. -/
def accessKeyTag : String := "GCPAccessKey"

/-- The tag of the workload identity. -/
def workloadIdentityTag : String := "GCPWorkLoadIdentity"

/-- The name of a key file in messages. -/
def keyName : String := "GCPKey"

/-- The content of a service account's key file. -/
structure Key where
  entries : Dict String
  ascending : entries.Ascending
  deriving DecidableEq

/-- A GCP credential. -/
inductive Credential where
  | key (key : Key)
  | workloadIdentity
  deriving DecidableEq

namespace Key

/-- The key file with some entries. -/
def ofEntries (entries : List (String × String)) : Key :=
  ⟨.ofEntries entries, Dict.ascending_ofEntries entries⟩

/-- The entries of a map whose values are all strings; the first other value is a failure. -/
def stringEntries : Dict Value → Outcome (List (String × String))
  | [] => .ok []
  | (name, .string text) :: rest => do return (name, text) :: (← stringEntries rest)
  | (name, value) :: _ => .fail (.typeMismatch s!"key.{name}" "string" value.kind)

/-- Read a key file out of a map that holds it under `key`. -/
def ofMap (entries : Dict Value) : Outcome Key :=
  Outcome.within keyName do
    let content ← Json.field .map entries "key"
    return ofEntries (← stringEntries content)

/-- The first problem of a key file. -/
def validate (key : Key) : Outcome Unit :=
  if key.entries.isEmpty then .error (.missingField keyName "Key") else .ok ()

/-- The key file as a value. -/
def toValue (key : Key) : Value :=
  .object (key.entries.map fun entry => (entry.1, .string entry.2))

/-- The envelope of a key file. -/
def toEnvelope (key : Key) : Envelope :=
  ⟨accessKeyTag, [("key", key.toValue)]⟩

/-- The inspection text of a key file. -/
def inspect (key : Key) : String :=
  Inspect.record "GcpKey" [("key", Inspect.list (key.entries.names.map Inspect.text))]

end Key

namespace Credential

/-- Read the values of an envelope with a given tag. -/
def ofTagged (tag : String) (values : Dict Value) : Decoder Credential :=
  if tag = accessKeyTag then do return .key (← Key.ofMap values)
  else if tag = workloadIdentityTag then return .workloadIdentity
  else .fail (.ofCause (.unrecognizedTag tag))

/-- Read a credential out of an untyped value that stands at a depth. Null means none; an empty
map is the workload identity. -/
def decodeAt (depth : UInt64) (value : Value) : Decoder (Option Credential) :=
  match levelsAt depth, value with
  | 0, _ => .fail (Provider.tooDeep .gcp)
  | _ + 1, .null => return none
  | _ + 1, value => do
      let entries ← (Json.asMap value).within (Provider.typeName .gcp)
      if entries.isEmpty then
        return some .workloadIdentity
      else if entries.has "key" then
        return some (.key (← Key.ofMap entries))
      else if entries.has "type" then
        let envelope ← Envelope.ofMap .gcp entries
        envelope.resolve .gcp ofTagged
      else
        .fail ⟨[Provider.typeName .gcp], .unrecognizedShape⟩

/-- The envelope of a credential. -/
def toEnvelope : Credential → Envelope
  | .key file => file.toEnvelope
  | .workloadIdentity => ⟨workloadIdentityTag, []⟩

/-- The first problem of a credential. -/
def validate : Credential → Outcome Unit
  | .key file => file.validate
  | .workloadIdentity => .ok ()

/-- The name of a credential's variant. -/
def variantName : Credential → String
  | .key _ => "Key"
  | .workloadIdentity => "WorkloadIdentity"

/-- Whether two credentials of one variant are equal as that variant defines it; nothing for two
variants. -/
def variantEquals : Credential → Credential → Option Bool
  | .key left, .key right => some (left = right)
  | .workloadIdentity, .workloadIdentity => some true
  | _, _ => none

/-- The inspection text of a credential. -/
def inspect : Credential → String
  | .key file => Inspect.tagged "Key" file.inspect
  | .workloadIdentity => Inspect.tagged "WorkloadIdentity" "GcpWorkloadIdentity"

end Credential

/-- Redact the secrets of an envelope: a key file is replaced as a whole. -/
def sanitize (envelope : Envelope) : Envelope :=
  if envelope.tag = accessKeyTag then envelope.redactEntry "key" else envelope

end CloudBilling.Gcp
