import CloudBilling.Json.Field
import CloudBilling.Logged

/-!
# Buckets of cost reports

The record of an S3 integration, for any representation of its credential.
-/

namespace CloudBilling.Integration

open Json (Value)

/-- A bucket of cost reports. -/
structure S3 (γ : Type) where
  bucket : String
  region : String
  account : String
  credential : Option γ
  deriving DecidableEq, Repr

namespace S3

variable {γ δ : Type}

/-- The record in which everything is empty. -/
def blank : S3 γ :=
  ⟨"", "", "", none⟩

/-- Read a record out of a map, given how its credential is read. -/
def ofMap (readCredential : Dict Value → Decoder (Option γ)) (entries : Dict Value) :
    Decoder (S3 γ) := do
  let bucket ← Json.field .string entries "bucket"
  let region ← Json.field .string entries "region"
  let account ← Json.field .string entries "account"
  let credential ← readCredential entries
  return { bucket, region, account, credential }

/-- The fields of a record as they are written, given its credential as a value. -/
def toEntries (credential : Value) (record : S3 γ) : List (String × Value) :=
  [("bucket", .string record.bucket), ("region", .string record.region),
   ("account", .string record.account), ("configurer", credential)]

/-- The record with another credential. -/
def withCredential (record : S3 γ) (credential : Option δ) : S3 δ :=
  { record with credential }

/-- The fields that must not be empty, in the order in which they are checked. -/
def required (record : S3 γ) : List (String × String) :=
  [("bucket", record.bucket), ("region", record.region), ("account", record.account)]

/-- The key of the resource that a record describes. -/
def key (record : S3 γ) : String :=
  record.account ++ "/" ++ record.bucket

/-- The fields of a record as inspection shows them. -/
def inspectFields (record : S3 γ) : List (String × String) :=
  [("bucket", record.bucket), ("region", record.region), ("account", record.account)]

end S3

end CloudBilling.Integration
