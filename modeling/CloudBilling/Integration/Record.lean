import CloudBilling.Inspect
import CloudBilling.Integration.Athena
import CloudBilling.Integration.AzureStorage
import CloudBilling.Integration.BigQuery
import CloudBilling.Integration.BillingApi
import CloudBilling.Integration.Kind
import CloudBilling.Integration.S3

/-!
# Records of every kind

Each kind of integration has its own record. This module gives them one interface, for any
representation of the credential. Everything about a record besides its credential is public.
-/

namespace CloudBilling.Integration

open Json (Value)

/-- The record of a kind, with its credential in some representation. -/
abbrev Record : Kind → Type → Type
  | .s3, γ => S3 γ
  | .athena, γ => Athena γ
  | .bigQuery, γ => BigQuery γ
  | .azureStorage, γ => AzureStorage γ
  | .alibaba, γ => BillingApi γ

instance {γ : Type} [DecidableEq γ] : (kind : Kind) → DecidableEq (Record kind γ)
  | .s3 => inferInstanceAs (DecidableEq (S3 γ))
  | .athena => inferInstanceAs (DecidableEq (Athena γ))
  | .bigQuery => inferInstanceAs (DecidableEq (BigQuery γ))
  | .azureStorage => inferInstanceAs (DecidableEq (AzureStorage γ))
  | .alibaba => inferInstanceAs (DecidableEq (BillingApi γ))

namespace Record

variable {γ δ : Type}

/-- The record in which everything is empty. -/
def blank : (kind : Kind) → Record kind γ
  | .s3 => S3.blank
  | .athena => Athena.blank
  | .bigQuery => BigQuery.blank
  | .azureStorage => AzureStorage.blank
  | .alibaba => BillingApi.blank

/-- Read a record out of a map, given how its credential is read. -/
def ofMap (readCredential : Dict Value → Decoder (Option γ)) :
    (kind : Kind) → Dict Value → Decoder (Record kind γ)
  | .s3 => S3.ofMap readCredential
  | .athena => Athena.ofMap readCredential
  | .bigQuery => BigQuery.ofMap readCredential
  | .azureStorage => AzureStorage.ofMap readCredential
  | .alibaba => BillingApi.ofMap readCredential

/-- The fields of a record as they are written, given its credential as a value. -/
def toEntries (credential : Value) : (kind : Kind) → Record kind γ → List (String × Value)
  | .s3 => S3.toEntries credential
  | .athena => Athena.toEntries credential
  | .bigQuery => BigQuery.toEntries credential
  | .azureStorage => AzureStorage.toEntries credential
  | .alibaba => BillingApi.toEntries credential

/-- The credential of a record. -/
def credential : (kind : Kind) → Record kind γ → Option γ
  | .s3 => S3.credential
  | .athena => Athena.credential
  | .bigQuery => BigQuery.credential
  | .azureStorage => AzureStorage.credential
  | .alibaba => BillingApi.credential

/-- The record with another credential. -/
def withCredential (replacement : Option δ) : (kind : Kind) → Record kind γ → Record kind δ
  | .s3 => (S3.withCredential · replacement)
  | .athena => (Athena.withCredential · replacement)
  | .bigQuery => (BigQuery.withCredential · replacement)
  | .azureStorage => (AzureStorage.withCredential · replacement)
  | .alibaba => (BillingApi.withCredential · replacement)

/-- The fields that must not be empty, in the order in which they are checked. -/
def required : (kind : Kind) → Record kind γ → List (String × String)
  | .s3 => S3.required
  | .athena => Athena.required
  | .bigQuery => BigQuery.required
  | .azureStorage => AzureStorage.required
  | .alibaba => BillingApi.required

/-- The key of the resource that a record describes. -/
def key : (kind : Kind) → Record kind γ → String
  | .s3 => S3.key
  | .athena => Athena.key
  | .bigQuery => BigQuery.key
  | .azureStorage => AzureStorage.key
  | .alibaba => BillingApi.key

/-- The region of the clients that read the resource; most kinds name none. -/
def region : (kind : Kind) → Record kind γ → String
  | .s3 => S3.region
  | .athena => Athena.region
  | .bigQuery | .azureStorage => fun _ => ""
  | .alibaba => BillingApi.region

/-- The fields of a record as inspection shows them. -/
def inspectFields : (kind : Kind) → Record kind γ → List (String × String)
  | .s3 => S3.inspectFields
  | .athena => Athena.inspectFields
  | .bigQuery => BigQuery.inspectFields
  | .azureStorage => AzureStorage.inspectFields
  | .alibaba => BillingApi.inspectFields

/-- A record as a value, given how its credential is written; an absent credential is null. -/
def toValue (write : γ → Value) (kind : Kind) (record : Record kind γ) : Value :=
  .object (toEntries ((credential kind record).elim .null write) kind record)

/-- The inspection text of a record, given that of its credential. -/
def inspect (inspectCredential : γ → String) (kind : Kind) (record : Record kind γ) : String :=
  Inspect.record kind.typeName <|
    (inspectFields kind record).map (fun field => (field.1, Inspect.text field.2)) ++
      [("configurer", Inspect.optional ((credential kind record).map inspectCredential))]

@[simp] theorem credential_withCredential (replacement : Option δ) (kind : Kind)
    (record : Record kind γ) :
    credential kind (withCredential replacement kind record) = replacement := by
  cases kind <;> rfl

@[simp] theorem key_withCredential (replacement : Option δ) (kind : Kind)
    (record : Record kind γ) : key kind (withCredential replacement kind record) = key kind record := by
  cases kind <;> rfl

@[simp] theorem required_withCredential (replacement : Option δ) (kind : Kind)
    (record : Record kind γ) :
    required kind (withCredential replacement kind record) = required kind record := by
  cases kind <;> rfl

@[simp] theorem withCredential_withCredential {ε : Type} (first : Option δ) (second : Option ε)
    (kind : Kind) (record : Record kind γ) :
    withCredential second kind (withCredential first kind record) =
      withCredential second kind record := by
  cases kind <;> rfl

@[simp] theorem withCredential_credential (kind : Kind) (record : Record kind γ) :
    withCredential (credential kind record) kind record = record := by
  cases kind <;> rfl

end Record

end CloudBilling.Integration
