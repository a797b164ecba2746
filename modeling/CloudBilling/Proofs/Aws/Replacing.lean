import CloudBilling.Proofs.Aws.Opening

/-!
# What stands in the place of a nested entry

Redaction leaves an entry that is nested in a role in one of three ways.  An entry that is read by
its tag as an envelope of one of the provider's credentials becomes that envelope, redacted.  Any
other entry that decodes to a credential by itself becomes the envelope of that credential,
redacted.  All else becomes null.
-/

namespace CloudBilling.Aws

open Json (Value present?)
open Aws.Credential

variable {value nested : Value} {envelope : Envelope} {entries : Dict Value} {levels : Nat}

/-! ## Values that are read by their tag -/

/-- The envelope that a value is read as by its tag. -/
def tagged? : Value → Option Envelope
  | .object entries =>
      if Envelope.isReadByTag .aws entries then (Envelope.ofMap .aws entries).toOption else none
  | _ => none

theorem tagged?_of_ofMap (byTag : Envelope.isReadByTag .aws entries = true)
    (read : Envelope.ofMap .aws entries = .ok envelope) :
    tagged? (.object entries) = some envelope := by
  rw [tagged?, if_pos byTag, read]
  rfl

theorem exists_of_tagged? (read : tagged? value = some envelope) :
    ∃ entries, value = .object entries ∧ Envelope.isReadByTag .aws entries = true ∧
      Envelope.ofMap .aws entries = .ok envelope := by
  cases value with
  | null | bool | number | string | array => cases read
  | object entries =>
      rw [tagged?] at read
      split at read
      · next byTag =>
          refine ⟨entries, rfl, byTag, ?_⟩
          cases outcome : Envelope.ofMap .aws entries with
          | error failure =>
              rw [outcome] at read
              cases read
          | ok inner =>
              rw [outcome] at read
              cases read
              rfl
      · cases read

@[simp] theorem tagged?_toValue (envelope : Envelope) :
    tagged? envelope.toValue = some envelope := by
  rw [Envelope.toValue_eq_object]
  exact tagged?_of_ofMap (Envelope.isReadByTag_entries .aws envelope)
    (Envelope.ofMap_entries .aws envelope)

theorem decodeWithin_of_tagged (read : tagged? value = some envelope) :
    decodeWithin (levels + 1) value =
      envelope.resolve .aws (ofTagged (decodeWithin levels)) := by
  obtain ⟨entries, rfl, byTag, outcome⟩ := exists_of_tagged? read
  obtain ⟨type, noArn, noId⟩ := isReadByTag_aws_iff.mp byTag
  rw [decodeWithin_of_type noArn noId type, outcome]
  rfl

/-- A map that is read by its tag and is no envelope cannot be decoded. -/
theorem exists_failure_of_malformed (byTag : Envelope.isReadByTag .aws entries = true)
    (untagged : tagged? (.object entries) = none) :
    ∃ failure, Envelope.ofMap .aws entries = .error failure ∧
      decodeWithin (levels + 1) (.object entries) = .fail failure := by
  obtain ⟨type, noArn, noId⟩ := isReadByTag_aws_iff.mp byTag
  cases outcome : Envelope.ofMap .aws entries with
  | ok inner =>
      rw [tagged?_of_ofMap byTag outcome] at untagged
      cases untagged
  | error failure =>
      refine ⟨failure, rfl, ?_⟩
      rw [decodeWithin_of_type noArn noId type, outcome]
      rfl

theorem outcome_flat_ne_none (attempt : Decoder Credential) :
    (RoleForm.flat.carry attempt).outcome ≠ .ok none := by
  intro decoded
  rw [RoleForm.carry, Attempt.outcome_bind] at decoded
  cases reached : attempt.outcome <;> rw [reached] at decoded <;> cases decoded

/-- A map that is no envelope is decoded to a credential, or not at all. -/
theorem decodeWithin_ne_none_of_untagged (untagged : tagged? (.object entries) = none) :
    (decodeWithin (levels + 1) (.object entries)).outcome ≠ .ok none := by
  cases arn : entries.has "roleARN" with
  | true =>
      rw [decodeWithin_of_roleArn arn]
      exact outcome_flat_ne_none _
  | false =>
      cases id : entries.has "id" with
      | true =>
          rw [decodeWithin_of_id arn id]
          exact outcome_flat_ne_none _
      | false =>
          cases type : entries.has "type" with
          | true =>
              have byTag := isReadByTag_aws_iff.mpr ⟨type, arn, id⟩
              obtain ⟨failure, _, failed⟩ := exists_failure_of_malformed byTag untagged
              rw [failed]
              simp
          | false =>
              by_cases empty : entries = []
              · rw [empty, decodeWithin_empty]
                simp
              · rw [decodeWithin_of_unrecognized empty arn id type]
                simp

/-- Without a tag, only null is read as no credential. -/
theorem eq_null_of_untagged (untagged : tagged? value = none)
    (decoded : (decodeWithin levels value).outcome = .ok none) : value = .null := by
  cases levels with
  | zero =>
      rw [decodeWithin_zero] at decoded
      cases decoded
  | succ levels =>
      cases value with
      | null => rfl
      | bool | number | string | array =>
          rw [decodeWithin_of_not_map rfl (by simp)] at decoded
          cases decoded
      | object entries => exact absurd decoded (decodeWithin_ne_none_of_untagged untagged)

/-! ## The entry in a role -/

/-- What redaction puts in the place of the entry that is nested in a role. -/
def replaced (nested : Value) : Value :=
  (cleanNested nested).value.getD .null

/-- Redaction cannot locate the secrets of an entry: it is an envelope with a tag of no credential,
or no envelope at all and, by itself, no credential either. -/
def Dropped (nested : Value) : Prop :=
  match tagged? nested with
  | some envelope => envelope.tag ∉ Provider.tags .aws
  | none => ∀ credential, (decodeAt 0 nested).outcome ≠ .ok (some credential)

/-- The entry in which a credential stands below a role: the value of its envelope, or null. -/
def nestedValue : Option Credential → Value
  | none => .null
  | some credential => credential.toEnvelope.toValue

theorem get?_toEnvelope_configurer (base : Option Credential) (roleArn : String) :
    (assumeRole base roleArn).toEnvelope.values.get? "configurer" = some (nestedValue base) := by
  cases base <;> rfl

theorem replaced_null : replaced .null = .null := rfl

theorem replaced_of_owned (read : tagged? nested = some envelope)
    (owned : envelope.tag ∈ Provider.tags .aws) :
    replaced nested = (sanitize envelope).value.toValue := by
  obtain ⟨entries, rfl, byTag, outcome⟩ := exists_of_tagged? read
  rw [replaced, cleanNested_of_owned byTag outcome owned]
  rfl

theorem replaced_of_foreign (read : tagged? nested = some envelope)
    (foreign : envelope.tag ∉ Provider.tags .aws) : replaced nested = .null := by
  obtain ⟨entries, rfl, byTag, outcome⟩ := exists_of_tagged? read
  rw [replaced, cleanNested_of_foreign byTag outcome foreign]
  rfl

/-- What is no envelope is replaced by what it decodes to by itself. -/
theorem replaced_of_untagged (untagged : tagged? nested = none) :
    replaced nested =
      match (decodeAt 0 nested).outcome with
      | .ok credential => nestedValue (credential.map redact)
      | .error _ => .null := by
  cases nested with
  | null | bool | number | string | array => rfl
  | object entries =>
      cases byTag : Envelope.isReadByTag .aws entries with
      | true =>
          obtain ⟨failure, outcome, alone⟩ : ∃ failure,
              Envelope.ofMap .aws entries = .error failure ∧
                decodeAt 0 (.object entries) = .fail failure :=
            exists_failure_of_malformed byTag untagged
          rw [replaced, cleanNested_of_malformed byTag outcome, alone]
          rfl
      | false =>
          rw [replaced, cleanNested_of_shape byTag, sanitizeByShape, Logged.value_bind,
            Attempt.settle]
          rcases (decodeAt 0 (.object entries)).outcome with failure | _ | credential <;> rfl

theorem Dropped.replaced_eq (dropped : Dropped nested) : replaced nested = .null := by
  unfold Dropped at dropped
  split at dropped
  · next read => exact replaced_of_foreign read dropped
  · next untagged =>
      rw [replaced_of_untagged untagged]
      rcases reached : (decodeAt 0 nested).outcome with failure | _ | credential
      · rfl
      · rfl
      · exact absurd reached (dropped credential)

/-- Every entry is replaced in one of three ways. -/
inductive Replacement (nested : Value) : Prop
  | dropped (lost : Dropped nested)
  | inPlace (envelope : Envelope) (read : tagged? nested = some envelope)
      (owned : envelope.tag ∈ Provider.tags .aws)
      (same : replaced nested = (sanitize envelope).value.toValue)
  | reread (credential : Credential) (untagged : tagged? nested = none)
      (decoded : (decodeAt 0 nested).outcome = .ok (some credential))
      (same : replaced nested = credential.redact.toEnvelope.toValue)

theorem replacement (nested : Value) : Replacement nested := by
  cases read : tagged? nested with
  | some envelope =>
      by_cases owned : envelope.tag ∈ Provider.tags .aws
      · exact .inPlace envelope read owned (replaced_of_owned read owned)
      · refine .dropped ?_
        rwa [Dropped, read]
  | none =>
      by_cases credible : ∃ credential, (decodeAt 0 nested).outcome = .ok (some credential)
      · obtain ⟨credential, decoded⟩ := credible
        refine .reread credential read decoded ?_
        rw [replaced_of_untagged read, decoded]
        rfl
      · refine .dropped ?_
        rw [Dropped, read]
        exact fun credential decoded => credible ⟨credential, decoded⟩

/-- Redaction of a role replaces the entry nested in it. -/
theorem get?_configurer_sanitize (role : envelope.tag = assumeRoleTag) :
    (sanitize envelope).value.values.get? "configurer" =
      (envelope.values.get? "configurer").map replaced := by
  cases present : present? envelope.values "configurer" with
  | none =>
      rw [sanitize_of_bare_role role present, Logged.value_pure]
      rcases Json.present?_eq_none_iff.mp present with absent | null
      · rw [absent, Option.map_none]
      · rw [null, Option.map_some, replaced_null]
  | some nested =>
      obtain ⟨found, notNull⟩ := Json.present?_eq_some_iff.mp present
      rw [values_sanitize_of_nested role found notNull, Dict.get?_update, if_pos rfl, found]
      rfl

/-- Redaction of a role changes nothing but the entry nested in it. -/
theorem get?_sanitize_of_role {name : String} (role : envelope.tag = assumeRoleTag)
    (other : name ≠ "configurer") :
    (sanitize envelope).value.values.get? name = envelope.values.get? name := by
  cases present : present? envelope.values "configurer" with
  | none => rw [sanitize_of_bare_role role present, Logged.value_pure]
  | some nested =>
      obtain ⟨found, notNull⟩ := Json.present?_eq_some_iff.mp present
      rw [values_sanitize_of_nested role found notNull, Dict.get?_update, if_neg other]

end CloudBilling.Aws
