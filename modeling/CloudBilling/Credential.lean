import CloudBilling.Credential.Alibaba
import CloudBilling.Credential.Aws
import CloudBilling.Credential.Azure
import CloudBilling.Credential.Gcp

/-!
# Credentials of every provider

Each provider has its own type of credentials. This module gives them one interface: decoding by
shape or by tag, encoding into an envelope, validation, comparison, inspection, and the
redaction of envelopes.
-/

namespace CloudBilling

open Json (Value)

/-- The credentials of a provider. -/
abbrev Credential : Provider → Type
  | .aws => Aws.Credential
  | .azure => Azure.Credential
  | .gcp => Gcp.Credential
  | .alibaba => Alibaba.Credential

instance : (provider : Provider) → DecidableEq (Credential provider)
  | .aws => inferInstanceAs (DecidableEq Aws.Credential)
  | .azure => inferInstanceAs (DecidableEq Azure.Credential)
  | .gcp => inferInstanceAs (DecidableEq Gcp.Credential)
  | .alibaba => inferInstanceAs (DecidableEq Alibaba.Credential)

namespace Credential

/-- Read a credential out of an untyped value that stands at a depth. -/
def decodeAt : (provider : Provider) → UInt64 → Value → Decoder (Option (Credential provider))
  | .aws => Aws.Credential.decodeAt
  | .azure => Azure.Credential.decodeAt
  | .gcp => Gcp.Credential.decodeAt
  | .alibaba => Alibaba.Credential.decodeAt

/-- Read a credential out of an untyped value. -/
def decode (provider : Provider) (value : Value) : Decoder (Option (Credential provider)) :=
  decodeAt provider 0 value

/-- Read the values of an envelope that stands at a depth. Only AWS credentials nest. -/
def decodeTagged : (provider : Provider) → UInt64 → String → Dict Value →
    Decoder (Credential provider)
  | .aws => Aws.Credential.decodeTagged
  | .azure => fun _ => Azure.Credential.ofTagged
  | .gcp => fun _ => Gcp.Credential.ofTagged
  | .alibaba => fun _ => Alibaba.Credential.ofTagged

/-- The envelope of a credential. -/
def toEnvelope : (provider : Provider) → Credential provider → Envelope
  | .aws => Aws.Credential.toEnvelope
  | .azure => Azure.Credential.toEnvelope
  | .gcp => Gcp.Credential.toEnvelope
  | .alibaba => Alibaba.Credential.toEnvelope

/-- The credential in an envelope, if there is one that can be used; problems are logged. -/
def ofEnvelope (provider : Provider) (envelope : Envelope) :
    Logged Event (Option (Credential provider)) :=
  envelope.open? provider (decodeTagged provider 0)

/-- The first problem of a credential. -/
def validate : (provider : Provider) → Credential provider → Outcome Unit
  | .aws => Aws.Credential.validate
  | .azure => Azure.Credential.validate
  | .gcp => Gcp.Credential.validate
  | .alibaba => Alibaba.Credential.validate

/-- The name of a credential's variant. -/
def variantName : (provider : Provider) → Credential provider → String
  | .aws => Aws.Credential.variantName
  | .azure => Azure.Credential.variantName
  | .gcp => Gcp.Credential.variantName
  | .alibaba => Alibaba.Credential.variantName

/-- Whether a credential is there and equal to another one. -/
def equals (provider : Provider) (credential : Credential provider)
    (other : Option (Credential provider)) : Bool :=
  other = some credential

/-- Whether two credentials of one variant are equal as that variant defines it; nothing for two
variants. -/
def variantEquals : (provider : Provider) → Credential provider → Credential provider →
    Option Bool
  | .aws => Aws.Credential.variantEquals
  | .azure => Azure.Credential.variantEquals
  | .gcp => Gcp.Credential.variantEquals
  | .alibaba => Alibaba.Credential.variantEquals

/-- The inspection text of a credential. -/
def inspect : (provider : Provider) → Credential provider → String
  | .aws => Aws.Credential.inspect
  | .azure => Azure.Credential.inspect
  | .gcp => Gcp.Credential.inspect
  | .alibaba => Alibaba.Credential.inspect

end Credential

/-- Redact the secrets of a provider's envelope. A tag that the provider does not own changes
nothing. -/
def Envelope.sanitize : Provider → Envelope → Logged Event Envelope
  | .aws => Aws.sanitize
  | .azure => fun envelope => return Azure.sanitize envelope
  | .gcp => fun envelope => return Gcp.sanitize envelope
  | .alibaba => fun envelope => return Alibaba.sanitize envelope

end CloudBilling
