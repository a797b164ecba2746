import CloudBilling.Credential.Envelope
import CloudBilling.Inspect

/-!
# Alibaba credentials

The one Alibaba credential is an access key, with which billing requests are signed.
-/

namespace CloudBilling.Alibaba

open Json (Value)

/-- The tag of an access key, and its name in messages. -/
def accessKeyTag : String := "AlibabaAccessKey"

/-- An access key. -/
structure AccessKey where
  id : String
  secret : String
  deriving DecidableEq, Repr

/-- An Alibaba credential. -/
inductive Credential where
  | accessKey (key : AccessKey)
  deriving DecidableEq, Repr

namespace AccessKey

/-- Read an access key out of a map. -/
def ofMap (entries : Dict Value) : Outcome AccessKey :=
  Outcome.within accessKeyTag do
    let id ← Json.field .string entries "id"
    let secret ← Json.field .string entries "secret"
    return ⟨id, secret⟩

/-- The first problem of an access key. -/
def validate (key : AccessKey) : Outcome Unit := do
  requireField accessKeyTag "Access key ID" key.id
  requireField accessKeyTag "Access Key secret" key.secret

/-- The envelope of an access key. -/
def toEnvelope (key : AccessKey) : Envelope :=
  ⟨accessKeyTag, [("id", .string key.id), ("secret", .string key.secret)]⟩

/-- The key with its secret replaced, unless that is empty. -/
def redact (key : AccessKey) : AccessKey :=
  { key with secret := if key.secret = "" then "" else redacted }

/-- The inspection text of an access key. -/
def inspect (key : AccessKey) : String :=
  Inspect.record "AlibabaAccessKey"
    [("access_key_id", Inspect.text key.id), ("access_key_secret", Inspect.text redacted)]

end AccessKey

namespace Credential

/-- Read the values of an envelope with a given tag. -/
def ofTagged (tag : String) (values : Dict Value) : Decoder Credential :=
  if tag = accessKeyTag then do return .accessKey (← AccessKey.ofMap values)
  else .fail (.ofCause (.unrecognizedTag tag))

/-- Read a credential out of an untyped value that stands at a depth. Null means none. -/
def decodeAt (depth : UInt64) (value : Value) : Decoder (Option Credential) :=
  match levelsAt depth, value with
  | 0, _ => .fail (Provider.tooDeep .alibaba)
  | _ + 1, .null => return none
  | _ + 1, value => do
      let entries ← (Json.asMap value).within (Provider.typeName .alibaba)
      if entries.has "id" then
        return some (.accessKey (← AccessKey.ofMap entries))
      else if entries.has "type" then
        let envelope ← Envelope.ofMap .alibaba entries
        envelope.resolve .alibaba ofTagged
      else
        .fail ⟨[Provider.typeName .alibaba], .unrecognizedShape⟩

/-- The envelope of a credential. -/
def toEnvelope : Credential → Envelope
  | .accessKey key => key.toEnvelope

/-- The first problem of a credential. -/
def validate : Credential → Outcome Unit
  | .accessKey key => key.validate

/-- The credential with its secret replaced, unless that is empty. -/
def redact : Credential → Credential
  | .accessKey key => .accessKey key.redact

/-- The name of a credential's variant. -/
def variantName : Credential → String
  | .accessKey _ => "AccessKey"

/-- Whether two credentials of one variant are equal as that variant defines it. -/
def variantEquals : Credential → Credential → Option Bool
  | .accessKey left, .accessKey right => some (left = right)

/-- The inspection text of a credential. -/
def inspect : Credential → String
  | .accessKey key => Inspect.tagged "AccessKey" key.inspect

end Credential

/-- Redact the secret of an envelope. -/
def sanitize (envelope : Envelope) : Envelope :=
  if envelope.tag = accessKeyTag then envelope.redactEntry "secret" else envelope

end CloudBilling.Alibaba
