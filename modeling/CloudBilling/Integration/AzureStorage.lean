import CloudBilling.Json.Field
import CloudBilling.Logged

/-!
# Cost exports in a storage container

The record of an Azure Storage integration, for any representation of its credential. An empty
path stands for the whole container, and an empty cloud for the public one.
-/

namespace CloudBilling.Integration

open Json (Value)

/-- A container of cost exports. -/
structure AzureStorage (γ : Type) where
  subscriptionId : String
  account : String
  container : String
  path : String
  cloud : String
  credential : Option γ
  deriving DecidableEq, Repr

namespace AzureStorage

variable {γ δ : Type}

/-- The record in which everything is empty. -/
def blank : AzureStorage γ :=
  ⟨"", "", "", "", "", none⟩

/-- Read a record out of a map, given how its credential is read. -/
def ofMap (readCredential : Dict Value → Decoder (Option γ)) (entries : Dict Value) :
    Decoder (AzureStorage γ) := do
  let subscriptionId ← Json.field .string entries "subscriptionID"
  let account ← Json.field .string entries "account"
  let container ← Json.field .string entries "container"
  let path ← Json.stringOrEmpty entries "path"
  let cloud ← Json.stringOrEmpty entries "cloud"
  let credential ← readCredential entries
  return { subscriptionId, account, container, path, cloud, credential }

/-- The fields of a record as they are written, given its credential as a value. -/
def toEntries (credential : Value) (record : AzureStorage γ) : List (String × Value) :=
  [("subscriptionID", .string record.subscriptionId), ("account", .string record.account),
   ("container", .string record.container), ("path", .string record.path),
   ("cloud", .string record.cloud), ("configurer", credential)]

/-- The record with another credential. -/
def withCredential (record : AzureStorage γ) (credential : Option δ) : AzureStorage δ :=
  { record with credential }

/-- The fields that must not be empty, in the order in which they are checked. -/
def required (record : AzureStorage γ) : List (String × String) :=
  [("Subscription ID", record.subscriptionId), ("Account", record.account),
   ("Container", record.container)]

/-- The key of the resource that a record describes. -/
def key (record : AzureStorage γ) : String :=
  let container := record.subscriptionId ++ "/" ++ record.container
  if record.path = "" then container else container ++ "/" ++ record.path

/-- Whether the letters `gov` stand together in a text, in either case. -/
def mentionsGov : List Char → Bool
  | [] => false
  | c :: rest => ((c :: rest).take 3).map Char.toLower = ['g', 'o', 'v'] || mentionsGov rest

/-- Whether the account is in a government cloud. -/
def isGovernmentCloud (record : AzureStorage γ) : Bool :=
  mentionsGov record.cloud.toList

/-- The host under which the accounts of the record's cloud stand. -/
def blobHost (record : AzureStorage γ) : String :=
  if record.isGovernmentCloud then "blob.core.usgovcloudapi.net" else "blob.core.windows.net"

/-- The address of the container. -/
def containerUrl (record : AzureStorage γ) : String :=
  s!"https://{record.account}.{record.blobHost}/{record.container}"

/-- The fields of a record as inspection shows them. -/
def inspectFields (record : AzureStorage γ) : List (String × String) :=
  [("subscription_id", record.subscriptionId), ("account", record.account),
   ("container", record.container), ("path", record.path), ("cloud", record.cloud)]

end AzureStorage

end CloudBilling.Integration
