import CloudBilling.Json.Field
import CloudBilling.Logged

/-!
# Cost reports behind a query service

The record of an Athena integration, for any representation of its credential. The bucket is the
one that receives the results of queries; without a workgroup the service uses its own.
-/

namespace CloudBilling.Integration

open Json (Value)

/-- A table of cost reports and the bucket for query results. -/
structure Athena (γ : Type) where
  bucket : String
  region : String
  database : String
  table : String
  workgroup : String
  account : String
  credential : Option γ
  deriving DecidableEq, Repr

namespace Athena

variable {γ δ : Type}

/-- The record in which everything is empty. -/
def blank : Athena γ :=
  ⟨"", "", "", "", "", "", none⟩

/-- Read a record out of a map, given how its credential is read. -/
def ofMap (readCredential : Dict Value → Decoder (Option γ)) (entries : Dict Value) :
    Decoder (Athena γ) := do
  let bucket ← Json.field .string entries "bucket"
  let region ← Json.field .string entries "region"
  let database ← Json.field .string entries "database"
  let table ← Json.field .string entries "table"
  let workgroup ← Json.stringOrEmpty entries "workgroup"
  let account ← Json.field .string entries "account"
  let credential ← readCredential entries
  return { bucket, region, database, table, workgroup, account, credential }

/-- The fields of a record as they are written, given its credential as a value. -/
def toEntries (credential : Value) (record : Athena γ) : List (String × Value) :=
  [("bucket", .string record.bucket), ("region", .string record.region),
   ("database", .string record.database), ("table", .string record.table),
   ("workgroup", .string record.workgroup), ("account", .string record.account),
   ("configurer", credential)]

/-- The record with another credential. -/
def withCredential (record : Athena γ) (credential : Option δ) : Athena δ :=
  { record with credential }

/-- The fields that must not be empty, in the order in which they are checked. -/
def required (record : Athena γ) : List (String × String) :=
  [("bucket", record.bucket), ("region", record.region), ("database", record.database),
   ("table", record.table), ("account", record.account)]

/-- The key of the resource that a record describes. -/
def key (record : Athena γ) : String :=
  record.account ++ "/" ++ record.bucket

/-- The fields of a record as inspection shows them. -/
def inspectFields (record : Athena γ) : List (String × String) :=
  [("bucket", record.bucket), ("region", record.region), ("database", record.database),
   ("table", record.table), ("workgroup", record.workgroup), ("account", record.account)]

end Athena

end CloudBilling.Integration
