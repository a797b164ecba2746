import CloudBilling.Integration.Record
import CloudBilling.Proofs.Field

/-!
# The fields of a record

A record is read out of a map in two parts that do not depend on each other: first all of its fields
but the credential, which are texts, and then the credential.  So what is said of the ways in which
a credential is read carries over to the records of every kind.
-/

namespace CloudBilling

open Json (Value)

variable {α β : Type}

/-- A step without notes stands before a part of an attempt if it stands before the whole. -/
theorem Attempt.liftM_outcome_bind (outcome : Outcome α) (next : α → Decoder β) :
    (liftM (liftM outcome >>= next : Decoder β).outcome : Decoder β) =
      liftM outcome >>= fun value => liftM (next value).outcome := by
  cases outcome <;> rfl

namespace Integration.Record

variable {γ : Type} {left right : Dict Value}

/-- The fields of a record but its credential, read out of a map. -/
def fieldsOf (kind : Kind) (entries : Dict Value) : Outcome (Record kind Empty) :=
  (ofMap (fun _ => pure none) kind entries).outcome

/-- The fields of a record are read before its credential, and do not depend on how that is read. -/
theorem ofMap_eq (read : Dict Value → Decoder (Option γ)) (kind : Kind) (entries : Dict Value) :
    ofMap read kind entries = (do
      let fields ← fieldsOf kind entries
      let credential ← read entries
      return withCredential credential kind fields) := by
  cases kind with
  | s3 =>
      simp only [ofMap, S3.ofMap, fieldsOf, Attempt.liftM_outcome_bind, bind_assoc, pure_bind]
      rfl
  | athena =>
      simp only [ofMap, Athena.ofMap, fieldsOf, Attempt.liftM_outcome_bind, bind_assoc, pure_bind]
      rfl
  | bigQuery =>
      simp only [ofMap, BigQuery.ofMap, fieldsOf, Attempt.liftM_outcome_bind, bind_assoc, pure_bind]
      rfl
  | azureStorage =>
      simp only [ofMap, AzureStorage.ofMap, fieldsOf, Attempt.liftM_outcome_bind, bind_assoc,
        pure_bind]
      rfl
  | alibaba =>
      simp only [ofMap, BillingApi.ofMap, fieldsOf, Attempt.liftM_outcome_bind, bind_assoc,
        pure_bind]
      rfl

/-- The fields of a record do not depend on what stands in the place of its credential. -/
theorem fieldsOf_congr (same : ∀ key, key ≠ "configurer" → left.get? key = right.get? key)
    (kind : Kind) : fieldsOf kind left = fieldsOf kind right := by
  have text (key : String) (other : key ≠ "configurer") :
      Json.field .string left key = Json.field .string right key := by
    rw [Json.field, Json.field, same key other]
  have optional (key : String) (other : key ≠ "configurer") :
      Json.stringOrEmpty left key = Json.stringOrEmpty right key := by
    rw [Json.stringOrEmpty, Json.stringOrEmpty, Json.optionalField, Json.optionalField,
      same key other, text key other]
  rw [fieldsOf, fieldsOf]
  cases kind with
  | s3 =>
      rw [ofMap, S3.ofMap, S3.ofMap, text "bucket" (by decide), text "region" (by decide),
        text "account" (by decide)]
  | athena =>
      rw [ofMap, Athena.ofMap, Athena.ofMap, text "bucket" (by decide), text "region" (by decide),
        text "database" (by decide), text "table" (by decide), optional "workgroup" (by decide),
        text "account" (by decide)]
  | bigQuery =>
      rw [ofMap, BigQuery.ofMap, BigQuery.ofMap, text "projectID" (by decide),
        text "dataset" (by decide), text "table" (by decide)]
  | azureStorage =>
      rw [ofMap, AzureStorage.ofMap, AzureStorage.ofMap, text "subscriptionID" (by decide),
        text "account" (by decide), text "container" (by decide), optional "path" (by decide),
        optional "cloud" (by decide)]
  | alibaba =>
      rw [ofMap, BillingApi.ofMap, BillingApi.ofMap, text "account" (by decide),
        text "region" (by decide)]

/-- A text of a record that cannot be read is a failure, but not one of the limit on nesting. -/
theorem withinLimit_fieldsOf (kind : Kind) (entries : Dict Value) :
    (fieldsOf kind entries).WithinLimit := by
  have text {ρ : Type} (key : String) {next : String → Decoder ρ}
      (limited : ∀ content, (next content).outcome.WithinLimit) :
      (liftM (Json.field .string entries key) >>= next).outcome.WithinLimit := by
    rw [Attempt.outcome_bind]
    exact (Json.withinLimit_field .string entries key).bind limited
  have optional {ρ : Type} (key : String) {next : String → Decoder ρ}
      (limited : ∀ content, (next content).outcome.WithinLimit) :
      (liftM (Json.stringOrEmpty entries key) >>= next).outcome.WithinLimit := by
    rw [Attempt.outcome_bind]
    exact ((Json.withinLimit_optionalField .string entries key).map _).bind limited
  cases kind <;> repeat' first
    | exact Outcome.withinLimit_ok _
    | (apply text; intro content)
    | (apply optional; intro content)

end Integration.Record

end CloudBilling
