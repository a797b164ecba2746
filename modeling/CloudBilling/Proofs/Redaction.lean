import CloudBilling.Proofs.Aws.Sanitizing
import CloudBilling.Proofs.Secrets

/-!
# Redacting the envelope of a credential

Redaction works on envelopes, which may hold anything.  On the envelope of a credential it does what
replacing the secrets of the credential itself does, at every level of nesting, and without a
warning.  What is left does not depend on the secrets that were replaced.
-/

namespace CloudBilling

open Json (Value)

namespace Envelope

/-- A text that is redacted as a value of an envelope. -/
theorem redactValue_string (text : String) :
    redactValue (.string text) = .string (if text = "" then "" else redacted) := by
  by_cases empty : text = "" <;> simp [redactValue, Value.isEmpty, empty]

theorem redactValue_redactValue (value : Value) :
    redactValue (redactValue value) = redactValue value := by
  by_cases empty : value.isEmpty = true
  · have kept : redactValue value = value := if_pos empty
    rw [kept, kept]
  · have replaced : redactValue value = .string redacted := if_neg empty
    rw [replaced, redactValue_string]
    rfl

/-- Redacting an entry twice is redacting it once. -/
theorem redactEntry_redactEntry (key : String) (envelope : Envelope) :
    (envelope.redactEntry key).redactEntry key = envelope.redactEntry key := by
  have once : redactValue ∘ redactValue = redactValue := funext redactValue_redactValue
  simp only [redactEntry, Dict.update_update, once]

theorem redactEntry_comm (envelope : Envelope) {key other : String} (distinct : key ≠ other) :
    (envelope.redactEntry key).redactEntry other =
      (envelope.redactEntry other).redactEntry key := by
  simp only [redactEntry, Dict.update_comm _ _ _ distinct]

end Envelope

namespace Aws

theorem AccessKey.redactEntry_toEnvelope (key : AccessKey) :
    key.toEnvelope.redactEntry "secret" = key.redact.toEnvelope := by
  simp [toEnvelope, redact, Envelope.redactEntry, Dict.update, Envelope.redactValue_string]

/-- Redacting the envelope of an AWS credential replaces every secret in the credential. -/
theorem sanitize_toEnvelope : (credential : Credential) →
    sanitize credential.toEnvelope = pure credential.redact.toEnvelope
  | .accessKey key => by
      rw [Credential.toEnvelope, sanitize_of_accessKey rfl, key.redactEntry_toEnvelope]
      rfl
  | .serviceAccount => sanitize_of_other (by decide) (by decide)
  | .assumeRole none roleArn => sanitize_of_bare_role rfl rfl
  | .assumeRole (some base) roleArn => by
      -- The nested envelope is tagged, so it is redacted in place and the induction applies.
      rw [sanitize_of_envelope rfl rfl base.tag_toEnvelope_mem, sanitize_toEnvelope base,
        map_pure]
      rfl

/-- A nested entry that is read by its shape is replaced by the redacted envelope of the credential
it decodes to. -/
theorem sanitizeByShape_eq (nested : Value) :
    sanitizeByShape nested = (Credential.decodeAt 0 nested).settle >>= fun outcome =>
      match outcome with
      | .ok (some credential) =>
          (fun clean => some clean.toValue) <$> sanitize credential.toEnvelope
      | _ => pure none := by
  rw [sanitizeByShape]
  congr 1
  funext outcome
  rcases outcome with failure | _ | credential
  · rfl
  · rfl
  · simp [sanitize_toEnvelope]

theorem Credential.AgreeUpToSecrets.redact_eq {left right : Credential}
    (agree : left.AgreeUpToSecrets right) : left.redact = right.redact := by
  induction agree with
  | accessKey id same => simp [Credential.redact, AccessKey.redact, same.replaced]
  | serviceAccount => rfl
  | bareRole roleArn => rfl
  | role roleArn _ ih => rw [Credential.redact, Credential.redact, ih]

end Aws

namespace Azure

/-- Redacting the envelope of an Azure credential replaces the secret in the credential. -/
theorem sanitize_toEnvelope (credential : Credential) :
    sanitize credential.toEnvelope = credential.redact.toEnvelope := by
  obtain ⟨key⟩ := credential
  simp [sanitize, Credential.toEnvelope, Credential.redact, AccessKey.toEnvelope,
    AccessKey.redact, Envelope.redactEntry, Dict.update, Envelope.redactValue_string]

theorem Credential.AgreeUpToSecrets.redact_eq {left right : Credential}
    (agree : left.AgreeUpToSecrets right) : left.redact = right.redact := by
  cases agree with
  | accessKey account same => simp [Credential.redact, AccessKey.redact, same.replaced]

end Azure

namespace Alibaba

/-- Redacting the envelope of an Alibaba credential replaces the secret in the credential. -/
theorem sanitize_toEnvelope (credential : Credential) :
    sanitize credential.toEnvelope = credential.redact.toEnvelope := by
  obtain ⟨key⟩ := credential
  simp [sanitize, Credential.toEnvelope, Credential.redact, AccessKey.toEnvelope,
    AccessKey.redact, Envelope.redactEntry, Dict.update, Envelope.redactValue_string]

theorem Credential.AgreeUpToSecrets.redact_eq {left right : Credential}
    (agree : left.AgreeUpToSecrets right) : left.redact = right.redact := by
  cases agree with
  | accessKey id same => simp [Credential.redact, AccessKey.redact, same.replaced]

end Alibaba

namespace Gcp

/-- Redacting the envelope of a key file replaces the whole of it, unless it is empty. -/
theorem sanitize_key (file : Key) :
    sanitize file.toEnvelope =
      ⟨accessKeyTag,
        [("key", if file.entries = [] then .object [] else .string redacted)]⟩ := by
  obtain ⟨entries, _⟩ := file
  cases entries with
  | nil => rfl
  | cons entry rest =>
      simp [sanitize, Key.toEnvelope, Key.toValue, Envelope.redactEntry, Dict.update,
        Envelope.redactValue, Value.isEmpty]

theorem sanitize_workloadIdentity :
    sanitize Credential.workloadIdentity.toEnvelope = Credential.workloadIdentity.toEnvelope :=
  rfl

theorem Credential.AgreeUpToSecrets.sanitize_eq {left right : Credential}
    (agree : left.AgreeUpToSecrets right) :
    sanitize left.toEnvelope = sanitize right.toEnvelope := by
  cases agree with
  | sameKey file => rfl
  | workloadIdentity => rfl
  | key leftFilled rightFilled =>
      rw [Credential.toEnvelope, Credential.toEnvelope, sanitize_key, sanitize_key,
        if_neg leftFilled, if_neg rightFilled]

end Gcp

/-- The redacted envelope of a credential does not depend on its secrets. -/
theorem Credential.AgreeUpToSecrets.sanitize_eq {provider : Provider}
    {left right : Credential provider} (agree : AgreeUpToSecrets provider left right) :
    Envelope.sanitize provider (toEnvelope provider left) =
      Envelope.sanitize provider (toEnvelope provider right) := by
  cases provider with
  | aws =>
      have same := Aws.Credential.AgreeUpToSecrets.redact_eq agree
      simp only [Envelope.sanitize, toEnvelope, Aws.sanitize_toEnvelope, same]
  | azure =>
      have same := Azure.Credential.AgreeUpToSecrets.redact_eq agree
      simp only [Envelope.sanitize, toEnvelope, Azure.sanitize_toEnvelope, same]
  | gcp =>
      have same := Gcp.Credential.AgreeUpToSecrets.sanitize_eq agree
      simp only [Envelope.sanitize, toEnvelope, same]
  | alibaba =>
      have same := Alibaba.Credential.AgreeUpToSecrets.redact_eq agree
      simp only [Envelope.sanitize, toEnvelope, Alibaba.sanitize_toEnvelope, same]

/-- Redacting the envelope of a credential replaces every secret in the credential that is there,
and nothing else.  Credentials that agree up to secrets leave the same envelope. -/
theorem sanitize_eq_redact :
    (∀ credential : Aws.Credential,
      Envelope.sanitize .aws credential.toEnvelope = pure credential.redact.toEnvelope) ∧
    (∀ credential : Azure.Credential,
      Envelope.sanitize .azure credential.toEnvelope = pure credential.redact.toEnvelope) ∧
    (∀ credential : Alibaba.Credential,
      Envelope.sanitize .alibaba credential.toEnvelope = pure credential.redact.toEnvelope) ∧
    (∀ file : Gcp.Key,
      Envelope.sanitize .gcp (Gcp.Credential.key file).toEnvelope =
        pure ⟨Gcp.accessKeyTag,
          [("key", if file.entries = [] then .object [] else .string redacted)]⟩) ∧
    Envelope.sanitize .aws Aws.Credential.serviceAccount.toEnvelope =
      pure Aws.Credential.serviceAccount.toEnvelope ∧
    Envelope.sanitize .gcp Gcp.Credential.workloadIdentity.toEnvelope =
      pure Gcp.Credential.workloadIdentity.toEnvelope ∧
    ∀ (provider : Provider) (left right : Credential provider),
      Credential.AgreeUpToSecrets provider left right →
        Envelope.sanitize provider (Credential.toEnvelope provider left) =
          Envelope.sanitize provider (Credential.toEnvelope provider right) := by
  refine ⟨Aws.sanitize_toEnvelope, ?_, ?_, ?_, ?_, ?_, ?_⟩
  · exact fun credential => congrArg pure (Azure.sanitize_toEnvelope credential)
  · exact fun credential => congrArg pure (Alibaba.sanitize_toEnvelope credential)
  · exact fun file => congrArg pure (Gcp.sanitize_key file)
  · exact Aws.sanitize_toEnvelope .serviceAccount
  · exact congrArg pure Gcp.sanitize_workloadIdentity
  · exact fun provider left right agree => agree.sanitize_eq

/-- Two roles over a role over an access key, with two different secrets. -/
theorem sanitize_eq_redact_nested_roles :
    let chain (secret : String) : Aws.Credential :=
      .assumeRole (some (.assumeRole (some (.accessKey ⟨"AKIA", secret⟩)) "inner")) "outer"
    Credential.AgreeUpToSecrets .aws (chain "first") (chain "second") ∧
      Envelope.sanitize .aws (chain "first").toEnvelope =
        Envelope.sanitize .aws (chain "second").toEnvelope := by
  intro chain
  have agree : Credential.AgreeUpToSecrets .aws (chain "first") (chain "second") :=
    .role "outer" (.role "inner" (.accessKey "AKIA" (.inr ⟨by decide, by decide⟩)))
  exact ⟨agree, sanitize_eq_redact.2.2.2.2.2.2 .aws _ _ agree⟩

end CloudBilling
