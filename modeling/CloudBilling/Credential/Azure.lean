import CloudBilling.Credential.Envelope
import CloudBilling.Inspect

/-!
# Azure credentials

The one Azure credential is the shared key of a storage account. Documents spell the entry that
holds the key in two ways; the envelope spells it in one.
-/

namespace CloudBilling.Azure

open Json (Value)

/-- The tag of a shared key, and its name in messages. -/
def accessKeyTag : String := "AzureAccessKey"

/-- The shared key of a storage account, in base64. -/
structure AccessKey where
  accessKey : String
  account : String
  deriving DecidableEq, Repr

/-- An Azure credential. -/
inductive Credential where
  | accessKey (key : AccessKey)
  deriving DecidableEq, Repr

namespace AccessKey

/-- The spelling of the key's entry that a map uses. -/
def spelling (entries : Dict Value) : String :=
  if entries.has "accessKey" then "accessKey" else "accesskey"

/-- Read a shared key out of a map. -/
def ofMap (entries : Dict Value) : Outcome AccessKey :=
  Outcome.within accessKeyTag do
    let accessKey ← Json.field .string entries (spelling entries)
    let account ← Json.field .string entries "account"
    return ⟨accessKey, account⟩

/-- The first problem of a shared key. -/
def validate (key : AccessKey) : Outcome Unit := do
  requireField accessKeyTag "access key" key.accessKey
  requireField accessKeyTag "account" key.account

/-- The envelope of a shared key. -/
def toEnvelope (key : AccessKey) : Envelope :=
  ⟨accessKeyTag, [("accessKey", .string key.accessKey), ("account", .string key.account)]⟩

/-- The shared key with its secret replaced, unless that is empty. -/
def redact (key : AccessKey) : AccessKey :=
  { key with accessKey := if key.accessKey = "" then "" else redacted }

/-- The inspection text of a shared key. -/
def inspect (key : AccessKey) : String :=
  Inspect.record "AzureAccessKey"
    [("access_key", Inspect.text redacted), ("account", Inspect.text key.account)]

end AccessKey

namespace Credential

/-- Read the values of an envelope with a given tag. -/
def ofTagged (tag : String) (values : Dict Value) : Decoder Credential :=
  if tag = accessKeyTag then do return .accessKey (← AccessKey.ofMap values)
  else .fail (.ofCause (.unrecognizedTag tag))

/-- Read a credential out of an untyped value that stands at a depth. Null means none. -/
def decodeAt (depth : UInt64) (value : Value) : Decoder (Option Credential) :=
  match levelsAt depth, value with
  | 0, _ => .fail (Provider.tooDeep .azure)
  | _ + 1, .null => return none
  | _ + 1, value => do
      let entries ← (Json.asMap value).within (Provider.typeName .azure)
      if entries.has "accessKey" || entries.has "accesskey" then
        return some (.accessKey (← AccessKey.ofMap entries))
      else if entries.has "type" then
        let envelope ← Envelope.ofMap .azure entries
        envelope.resolve .azure ofTagged
      else
        .fail ⟨[Provider.typeName .azure], .unrecognizedShape⟩

/-- The envelope of a credential. -/
def toEnvelope : Credential → Envelope
  | .accessKey key => key.toEnvelope

/-- The first problem of a credential. -/
def validate : Credential → Outcome Unit
  | .accessKey key => key.validate

/-- The credential with its secret replaced, unless that is empty. -/
def redact : Credential → Credential
  | .accessKey key => .accessKey key.redact

/-- The name of a credential's variant. -/
def variantName : Credential → String
  | .accessKey _ => "AccessKey"

/-- Whether two credentials of one variant are equal as that variant defines it. -/
def variantEquals : Credential → Credential → Option Bool
  | .accessKey left, .accessKey right => some (left = right)

/-- The inspection text of a credential. -/
def inspect : Credential → String
  | .accessKey key => Inspect.tagged "AccessKey" key.inspect

end Credential

/-- Redact the secrets of an envelope; both spellings of the key's entry hold one. -/
def sanitize (envelope : Envelope) : Envelope :=
  if envelope.tag = accessKeyTag then
    (envelope.redactEntry "accessKey").redactEntry "accesskey"
  else envelope

end CloudBilling.Azure
