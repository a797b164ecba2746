import CloudBilling.Json.Field
import CloudBilling.Logged

/-!
# Billing interfaces

The record of an Alibaba integration, for any representation of its credential. The billing data
come from an open interface of the account's region.
-/

namespace CloudBilling.Integration

open Json (Value)

/-- An account and the region whose billing interface is asked. -/
structure BillingApi (γ : Type) where
  account : String
  region : String
  credential : Option γ
  deriving DecidableEq, Repr

namespace BillingApi

variable {γ δ : Type}

/-- The record in which everything is empty. -/
def blank : BillingApi γ :=
  ⟨"", "", none⟩

/-- Read a record out of a map, given how its credential is read. -/
def ofMap (readCredential : Dict Value → Decoder (Option γ)) (entries : Dict Value) :
    Decoder (BillingApi γ) := do
  let account ← Json.field .string entries "account"
  let region ← Json.field .string entries "region"
  let credential ← readCredential entries
  return { account, region, credential }

/-- The fields of a record as they are written, given its credential as a value. -/
def toEntries (credential : Value) (record : BillingApi γ) : List (String × Value) :=
  [("account", .string record.account), ("region", .string record.region),
   ("configurer", credential)]

/-- The record with another credential. -/
def withCredential (record : BillingApi γ) (credential : Option δ) : BillingApi δ :=
  { record with credential }

/-- The fields that must not be empty, in the order in which they are checked. -/
def required (record : BillingApi γ) : List (String × String) :=
  [("region", record.region), ("account", record.account)]

/-- The key of the resource that a record describes. -/
def key (record : BillingApi γ) : String :=
  record.account ++ "/" ++ record.region

/-- The fields of a record as inspection shows them. -/
def inspectFields (record : BillingApi γ) : List (String × String) :=
  [("account", record.account), ("region", record.region)]

end BillingApi

end CloudBilling.Integration
