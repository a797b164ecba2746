import CloudBilling.Json.Field
import CloudBilling.Logged

/-!
# Billing exports in a data warehouse

The record of a BigQuery integration, for any representation of its credential.
-/

namespace CloudBilling.Integration

open Json (Value)

/-- A table that a billing account exports to. -/
structure BigQuery (γ : Type) where
  projectId : String
  dataset : String
  table : String
  credential : Option γ
  deriving DecidableEq, Repr

namespace BigQuery

variable {γ δ : Type}

/-- The record in which everything is empty. -/
def blank : BigQuery γ :=
  ⟨"", "", "", none⟩

/-- Read a record out of a map, given how its credential is read. -/
def ofMap (readCredential : Dict Value → Decoder (Option γ)) (entries : Dict Value) :
    Decoder (BigQuery γ) := do
  let projectId ← Json.field .string entries "projectID"
  let dataset ← Json.field .string entries "dataset"
  let table ← Json.field .string entries "table"
  let credential ← readCredential entries
  return { projectId, dataset, table, credential }

/-- The fields of a record as they are written, given its credential as a value. -/
def toEntries (credential : Value) (record : BigQuery γ) : List (String × Value) :=
  [("projectID", .string record.projectId), ("dataset", .string record.dataset),
   ("table", .string record.table), ("configurer", credential)]

/-- The record with another credential. -/
def withCredential (record : BigQuery γ) (credential : Option δ) : BigQuery δ :=
  { record with credential }

/-- The fields that must not be empty, in the order in which they are checked. -/
def required (record : BigQuery γ) : List (String × String) :=
  [("ProjectID", record.projectId), ("Dataset", record.dataset), ("Table", record.table)]

/-- The exported table with the dataset that it is in. -/
def qualifiedTable (record : BigQuery γ) : String :=
  record.dataset ++ "." ++ record.table

/-- The key of the resource that a record describes. -/
def key (record : BigQuery γ) : String :=
  record.projectId ++ "/" ++ record.qualifiedTable

/-- The fields of a record as inspection shows them. -/
def inspectFields (record : BigQuery γ) : List (String × String) :=
  [("project_id", record.projectId), ("dataset", record.dataset), ("table", record.table)]

end BigQuery

end CloudBilling.Integration
