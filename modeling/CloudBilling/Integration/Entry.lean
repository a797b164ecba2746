import CloudBilling.Integration.Config
import CloudBilling.Source

/-!
# Integrations and their sources

An integration is a configuration of any kind; an entry is an integration with the source that
it was read from. Entries are what documents hold, what is merged, and what is printed.
-/

namespace CloudBilling

open Json (Value)

/-- A configuration of any kind. -/
structure Integration where
  kind : Integration.Kind
  config : Integration.Config kind

namespace Integration

/-- Decides whether two integrations are equal: their kinds are, and then their
configurations. -/
def decEq : (left right : Integration) → Decidable (left = right)
  | ⟨leftKind, left⟩, ⟨rightKind, right⟩ =>
      if sameKind : leftKind = rightKind then by
        subst sameKind
        exact decidable_of_iff (left = right) (by simp)
      else isFalse (by simp [sameKind])

instance : DecidableEq Integration := decEq

/-- The key of the resource that an integration describes. -/
def key (integration : Integration) : String :=
  Record.key integration.kind integration.config

/-- The first problem of an integration. -/
def validate (integration : Integration) : Outcome Unit :=
  Config.validate integration.kind integration.config

/-- The integration as it is transferred, with its secrets, as a value. -/
def toValue (integration : Integration) : Value :=
  Transfer.toValue integration.kind (Config.toTransfer integration.kind integration.config)

/-- The integration as a value with its secrets redacted. -/
def toSanitizedValue (integration : Integration) : Logged Event Value :=
  Config.toSanitizedValue integration.kind integration.config

end Integration

/-- An integration and the source it was read from. -/
structure Entry where
  source : Source
  integration : Integration
  deriving DecidableEq

namespace Entry

/-- The key of the resource that an entry describes. -/
def key (entry : Entry) : String :=
  entry.integration.key

/-- The first problem of an entry. -/
def validate (entry : Entry) : Outcome Unit :=
  entry.integration.validate

/-- The entry as a value with its secrets redacted. -/
def toSanitizedValue (entry : Entry) : Logged Event Value := do
  let config ← entry.integration.toSanitizedValue
  return .object
    [("source", entry.source.toValue), ("kind", .string entry.integration.kind.name),
     ("config", config)]

/-- Entries as a value with their secrets redacted. -/
def listToSanitizedValue (entries : List Entry) : Logged Event Value := do
  return .array (← entries.mapM toSanitizedValue)

end Entry

end CloudBilling
