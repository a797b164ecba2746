import CloudBilling.Proofs.Redaction

/-!
# What AWS redaction leaves

An envelope can come out of redaction in four ways only: the secret of an access key was replaced,
a role has nothing nested in it, a role has the value of another redacted envelope nested in it, or
the tag is none that has secrets.  Whatever is to be shown of all redacted envelopes follows from
these.
-/

namespace CloudBilling.Aws

open Json (Value present?)

/-- The ways in which an envelope comes out of redaction. -/
inductive Redacted : Envelope → Prop
  | accessKey {envelope : Envelope} :
      envelope.tag = accessKeyTag → Redacted (envelope.redactEntry "secret")
  | bareRole {envelope : Envelope} :
      envelope.tag = assumeRoleTag → present? envelope.values "configurer" = none →
      Redacted envelope
  | role {envelope inner : Envelope} {nested : Value} :
      envelope.tag = assumeRoleTag → envelope.values.get? "configurer" = some nested →
      inner.tag ∈ Provider.tags .aws → Redacted inner →
      Redacted { envelope with
        values := envelope.values.update "configurer" fun _ => inner.toValue }
  | other {envelope : Envelope} :
      envelope.tag ≠ accessKeyTag → envelope.tag ≠ assumeRoleTag → Redacted envelope

variable {envelope : Envelope} {nested clean : Value}

/-! ## Every redacted envelope is one of them -/

/-- The envelope of a credential whose secrets were replaced. -/
theorem redacted_toEnvelope : (credential : Credential) → Redacted credential.redact.toEnvelope
  | .accessKey key => by
      rw [Credential.redact, Credential.toEnvelope, ← key.redactEntry_toEnvelope]
      exact .accessKey rfl
  | .serviceAccount => .other (by decide) (by decide)
  | .assumeRole none _ => .bareRole rfl rfl
  | .assumeRole (some base) roleArn =>
      @Redacted.role (Credential.assumeRole (some base) roleArn).toEnvelope _ _ rfl rfl
        base.redact.tag_toEnvelope_mem (redacted_toEnvelope base)

/-- What the nested entry is replaced by, if redaction of the envelopes that can be read out of the
entry leaves redacted ones. -/
theorem redacted_of_cleanNested
    (inside : ∀ entries inner, nested = .object entries →
      Envelope.ofMap .aws entries = .ok inner → Redacted (sanitize inner).value)
    (replaced : (cleanNested nested).value = some clean) :
    ∃ inner : Envelope,
      clean = inner.toValue ∧ inner.tag ∈ Provider.tags .aws ∧ Redacted inner := by
  cases nested with
  | null | bool | number | string | array => cases replaced
  | object entries =>
      cases tagged : Envelope.isReadByTag .aws entries with
      | true =>
          cases read : Envelope.ofMap .aws entries with
          | error failure =>
              rw [cleanNested_of_malformed tagged read] at replaced
              cases replaced
          | ok inner =>
              by_cases owned : inner.tag ∈ Provider.tags .aws
              · rw [cleanNested_of_owned tagged read owned, Logged.value_map] at replaced
                cases replaced
                refine ⟨(sanitize inner).value, rfl, ?_, inside entries inner rfl read⟩
                rw [tag_sanitize]
                exact owned
              · rw [cleanNested_of_foreign tagged read owned] at replaced
                cases replaced
      | false =>
          rw [cleanNested_of_shape tagged, sanitizeByShape, Logged.value_bind] at replaced
          rcases decoded : (Credential.decodeAt 0 (.object entries)).settle.value with
            failure | _ | credential <;> rw [decoded] at replaced
          · cases replaced
          · cases replaced
          · cases replaced
            exact ⟨_, rfl, credential.redact.tag_toEnvelope_mem, redacted_toEnvelope credential⟩

/-- Redaction leaves a redacted envelope. -/
theorem redacted_sanitize (envelope : Envelope) : Redacted (sanitize envelope).value := by
  induction envelope using nested_induction with
  | step envelope ih =>
      by_cases key : envelope.tag = accessKeyTag
      · rw [sanitize_of_accessKey key]
        exact .accessKey key
      · by_cases role : envelope.tag = assumeRoleTag
        · cases present : present? envelope.values "configurer" with
          | none =>
              rw [sanitize_of_bare_role role present]
              exact .bareRole role present
          | some nested =>
              obtain ⟨found, notNull⟩ := Json.present?_eq_some_iff.mp present
              rw [sanitize_of_nested role found notNull, Logged.value_bind]
              cases replaced : (cleanNested nested).value with
              | none =>
                  refine .bareRole role (Json.present?_eq_none_iff.mpr (.inr ?_))
                  simp [Dict.get?_update, found]
              | some clean =>
                  obtain ⟨inner, rfl, owned, innerRedacted⟩ := redacted_of_cleanNested
                    (fun entries inner same => ih entries inner (same ▸ found)) replaced
                  exact .role role found owned innerRedacted
        · rw [sanitize_of_other key role]
          exact .other key role

/-! ## There is nothing left to redact -/

/-- Redacting a redacted envelope changes nothing and logs nothing. -/
theorem Redacted.sanitize_eq (redacted : Redacted envelope) :
    sanitize envelope = pure envelope := by
  induction redacted with
  | @accessKey envelope key =>
      rw [@sanitize_of_accessKey (envelope.redactEntry "secret") key,
        Envelope.redactEntry_redactEntry]
  | bareRole role absent => exact sanitize_of_bare_role role absent
  | @role envelope inner nested role found owned _ ih =>
      have placed : (envelope.values.update "configurer" fun _ => inner.toValue).get?
          "configurer" = some inner.toValue := by
        simp [Dict.get?_update, found]
      have again := @sanitize_of_envelope
        { envelope with values := envelope.values.update "configurer" fun _ => inner.toValue }
        inner role placed owned
      rw [again, ih, map_pure, Dict.update_update]
      rfl
  | other notKey notRole => exact sanitize_of_other notKey notRole

end CloudBilling.Aws
