import CloudBilling.Client
import CloudBilling.Integration.Record

/-!
# Configurations

A configuration of a kind holds a usable credential; while it is transferred or stored it holds
an envelope instead. Only transferred configurations are printed, and printing for people goes
through `sanitize`.
-/

namespace CloudBilling.Integration

open Json (Value)

/-- A configuration of a kind. -/
abbrev Config (kind : Kind) : Type :=
  Record kind (Credential kind.provider)

/-- A configuration of a kind in transit. -/
abbrev Transfer (kind : Kind) : Type :=
  Record kind Envelope

/-- Read the credential of a configuration. An absent entry and null mean none. -/
def readCredential (provider : Provider) (entries : Dict Value) :
    Decoder (Option (Credential provider)) := do
  match ← Json.optionalField .any entries "configurer" with
  | some value => Credential.decode provider value
  | none => return none

/-- Read the envelope of a configuration in transit. An absent entry and null mean none. -/
def readEnvelope (provider : Provider) (entries : Dict Value) : Decoder (Option Envelope) := do
  match ← Json.optionalField .any entries "configurer" with
  | some value => return some (← Envelope.decode provider value)
  | none => return none

namespace Config

/-- Read a configuration out of an untyped value. -/
def decode (kind : Kind) (value : Value) : Decoder (Config kind) :=
  Attempt.within kind.typeName do
    let entries ← Json.asMap value
    Record.ofMap (readCredential kind.provider) kind entries

/-- The configuration as it is transferred, with its secrets. -/
def toTransfer (kind : Kind) (config : Config kind) : Transfer kind :=
  let envelope := (Record.credential kind config).map (Credential.toEnvelope kind.provider)
  Record.withCredential envelope kind config

/-- The required fields hold something; otherwise the first one that does not is reported. -/
def checkRequired (typeName : String) : List (String × String) → Outcome Unit
  | [] => .ok ()
  | (field, content) :: rest => do
      requireField typeName field content
      checkRequired typeName rest

/-- The first problem of a configuration: its credential comes before its other fields. -/
def validate (kind : Kind) (config : Config kind) : Outcome Unit := do
  match Record.credential kind config with
  | none => .error (.missingField kind.typeName "configurer")
  | some credential => (Credential.validate kind.provider credential).within kind.typeName
  checkRequired kind.typeName (Record.required kind config)

/-- Whether a configuration is there and equal to another one. -/
def equals (kind : Kind) (config : Config kind) (other : Option (Config kind)) : Bool :=
  other = some config

/-- The inspection text of a configuration. -/
def inspect (kind : Kind) (config : Config kind) : String :=
  Record.inspect (Credential.inspect kind.provider) kind config

/-- The settings of the clients that read the resource. -/
def createClient (surroundings : Client.Surroundings) (kind : Kind) (config : Config kind) :
    Client.Builder (Client.Settings kind.provider) :=
  match Record.credential kind config with
  | none => .fail (.missingField kind.typeName "configurer")
  | some credential =>
      (Client.create (Record.region kind config) surroundings kind.provider credential).within
        kind.typeName

end Config

namespace Transfer

/-- Read a configuration in transit out of an untyped value. -/
def decode (kind : Kind) (value : Value) : Decoder (Transfer kind) :=
  Attempt.within kind.transferName do
    let entries ← Json.asMap value
    Record.ofMap (readEnvelope kind.provider) kind entries

/-- The configuration that is transferred. An envelope that cannot be opened is logged, and
leaves the configuration without a credential. -/
def toConfig (kind : Kind) (transfer : Transfer kind) : Logged Event (Config kind) := do
  match Record.credential kind transfer with
  | none => return Record.withCredential none kind transfer
  | some envelope =>
      let credential ← Credential.ofEnvelope kind.provider envelope
      return Record.withCredential credential kind transfer

/-- The configuration in transit with the secrets of its envelope redacted. -/
def sanitize (kind : Kind) (transfer : Transfer kind) : Logged Event (Transfer kind) := do
  match Record.credential kind transfer with
  | none => return transfer
  | some envelope =>
      let sanitized ← Envelope.sanitize kind.provider envelope
      return Record.withCredential (some sanitized) kind transfer

/-- The configuration in transit as a value. -/
def toValue (kind : Kind) (transfer : Transfer kind) : Value :=
  Record.toValue Envelope.toValue kind transfer

end Transfer

/-- A configuration as a value with its secrets redacted. -/
def Config.toSanitizedValue (kind : Kind) (config : Config kind) : Logged Event Value := do
  let transfer ← Transfer.sanitize kind (Config.toTransfer kind config)
  return Transfer.toValue kind transfer

end CloudBilling.Integration
