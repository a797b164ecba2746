import CloudBilling.Proofs.Aws.Redacted

/-!
# Redacted envelopes are clean

Whatever an AWS envelope holds, after redaction every entry in it that may hold a secret is clean,
at every level down to which roles nest.  Decoding a clean envelope finds no secret: every access
key in what comes out of it has an empty secret or the word that stands in for one.
-/

namespace CloudBilling.Aws

open Json (Value present?)

/-- Nothing is left of a secret in a map of values: the entry is absent, holds nothing, or holds the
word that stands in for secrets. -/
def CleanSecret (values : Dict Value) : Prop :=
  ∀ value, values.get? "secret" = some value →
    value ∈ [.null, .string "", .array [], .object [], .string redacted]

/-- No secret can be found in an envelope.  What is nested in a role must be an envelope of one of
the provider's credentials, and clean again. -/
inductive Clean : Envelope → Prop
  | accessKey {envelope : Envelope} :
      envelope.tag = accessKeyTag → CleanSecret envelope.values → Clean envelope
  | bareRole {envelope : Envelope} :
      envelope.tag = assumeRoleTag →
      envelope.values.get? "configurer" = none ∨
        envelope.values.get? "configurer" = some .null → Clean envelope
  | role {envelope inner : Envelope} :
      envelope.tag = assumeRoleTag →
      envelope.values.get? "configurer" = some inner.toValue →
      inner.tag ∈ Provider.tags .aws → Clean inner → Clean envelope
  | other {envelope : Envelope} :
      envelope.tag ≠ accessKeyTag → envelope.tag ≠ assumeRoleTag → Clean envelope

namespace Credential

/-- Every access key in a credential. -/
def accessKeys : Credential → List AccessKey
  | .accessKey key => [key]
  | .serviceAccount => []
  | .assumeRole none _ => []
  | .assumeRole (some base) _ => base.accessKeys

end Credential

variable {envelope : Envelope}

/-! ## What redaction leaves -/

theorem cleanSecret_redactEntry (envelope : Envelope) :
    CleanSecret (envelope.redactEntry "secret").values := by
  intro value found
  rw [Envelope.redactEntry, Dict.get?_update, if_pos rfl, Option.map_eq_some_iff] at found
  obtain ⟨secret, _, rfl⟩ := found
  unfold Envelope.redactValue
  split
  · next empty => cases secret <;> simp_all [Value.isEmpty]
  · simp

theorem Redacted.clean (redacted : Redacted envelope) : Clean envelope := by
  induction redacted with
  | @accessKey envelope key => exact .accessKey key (cleanSecret_redactEntry envelope)
  | bareRole role absent => exact .bareRole role (Json.present?_eq_none_iff.mp absent)
  | role role found owned _ ih =>
      refine .role role ?_ owned ih
      simp [Dict.get?_update, found]
  | other notKey notRole => exact .other notKey notRole

/-- Redaction leaves a clean envelope. -/
theorem clean_sanitize (envelope : Envelope) : Clean (sanitize envelope).value :=
  (redacted_sanitize envelope).clean

/-! ## What decoding finds in a clean envelope -/

/-- A secret that was replaced, or was empty before. -/
theorem secret_of_cleanSecret {values : Dict Value} {key : AccessKey}
    (clean : CleanSecret values) (read : AccessKey.ofMap values = .ok key) :
    key.secret = "" ∨ key.secret = redacted := by
  have found := (AccessKey.ofMap_eq_ok_iff.mp read).2
  simpa using clean _ found

/-- Every access key that is decoded from a clean envelope has a clean secret. -/
theorem secret_of_clean (clean : Clean envelope) {levels : Nat} {credential : Credential}
    (decoded : (Credential.ofTagged (Credential.decodeWithin levels) envelope.tag
      envelope.values).outcome = .ok credential) :
    ∀ key ∈ credential.accessKeys, key.secret = "" ∨ key.secret = redacted := by
  induction clean generalizing levels credential with
  | accessKey key clean =>
      rw [key, Credential.ofTagged_accessKey] at decoded
      obtain ⟨found, read, rfl⟩ := Credential.outcome_keyOfMap_eq_ok_iff.mp decoded
      simpa [Credential.accessKeys] using secret_of_cleanSecret clean read
  | bareRole role absent =>
      rw [role, Credential.ofTagged_assumeRole] at decoded
      obtain ⟨roleArn, _, rest⟩ := Credential.outcome_roleOfMap_eq_ok_iff.mp decoded
      rw [Json.present?_eq_none_iff.mpr absent] at rest
      subst rest
      simp [Credential.accessKeys]
  | @role envelope inner role found owned clean ih =>
      rw [role, Credential.ofTagged_assumeRole] at decoded
      obtain ⟨roleArn, _, rest⟩ := Credential.outcome_roleOfMap_eq_ok_iff.mp decoded
      have present : present? envelope.values "configurer" = some inner.toValue :=
        Json.present?_eq_some_iff.mpr ⟨found, inner.toValue_ne_null⟩
      rw [present] at rest
      obtain ⟨base, below, rfl⟩ := rest
      cases base with
      | none => simp [Credential.accessKeys]
      | some base =>
          cases levels with
          | zero => cases below
          | succ levels =>
              rw [Credential.decodeWithin_toValue] at below
              rw [Credential.accessKeys]
              exact ih (Envelope.outcome_resolve_eq_some_iff.mp below).2
  | @other envelope notKey notRole =>
      by_cases account : envelope.tag = serviceAccountTag
      · rw [account, Credential.ofTagged_serviceAccount] at decoded
        cases decoded
        simp [Credential.accessKeys]
      · rw [Credential.ofTagged_of_foreign notKey account notRole] at decoded
        cases decoded

/-- After redaction an envelope is clean, and every access key anywhere in the credential that comes
out of it has an empty secret or the word that stands in for one. -/
theorem sanitize_leaves_no_secret (envelope : Envelope) :
    Clean (sanitize envelope).value ∧
      ∀ credential,
        (CloudBilling.Credential.ofEnvelope .aws (sanitize envelope).value).value =
            some credential →
          ∀ key ∈ credential.accessKeys, key.secret = "" ∨ key.secret = redacted := by
  refine ⟨clean_sanitize envelope, ?_⟩
  intro credential opened
  have decoded := (Envelope.value_open?_eq_some_iff.mp opened).2
  exact secret_of_clean (clean_sanitize envelope) decoded

/-- A role over a map that is recognized as an access key by its shape. -/
theorem sanitize_leaves_no_secret_flat_key :
    let envelope : Envelope := ⟨assumeRoleTag,
      [("configurer", .object [("id", .string "AKIA"), ("secret", .string "secret")]),
        ("roleARN", .string "arn")]⟩
    ∃ key : AccessKey,
      (CloudBilling.Credential.ofEnvelope .aws (sanitize envelope).value).value =
          some (.assumeRole (some (.accessKey key)) "arn") ∧
        key.id = "AKIA" ∧ (key.secret = "" ∨ key.secret = redacted) := by
  intro envelope
  have opened : (CloudBilling.Credential.ofEnvelope .aws (sanitize envelope).value).value =
      some (.assumeRole (some (.accessKey ⟨"AKIA", redacted⟩)) "arn") := by
    rw [sanitize_of_nested rfl rfl (by simp)]
    rfl
  refine ⟨⟨"AKIA", redacted⟩, opened, rfl, ?_⟩
  exact (sanitize_leaves_no_secret envelope).2 _ opened _ List.mem_cons_self

end CloudBilling.Aws
