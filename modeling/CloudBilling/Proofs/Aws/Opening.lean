import CloudBilling.Proofs.Aws.Nesting
import CloudBilling.Proofs.Errors
import CloudBilling.Proofs.Redaction

/-!
# What a redacted envelope opens to

An envelope that opens to a credential without an error opens, once it is redacted, to that
credential with its secrets replaced.  Redaction reads the entry nested in a role at the top again,
with more levels left than decoding has there; what decoding could read within fewer levels it reads
in the same way within more, so both see the same credential at every level and in every shape.
-/

namespace CloudBilling.Aws

open Json (Value present?)

variable {envelope : Envelope} {entries values : Dict Value} {nested : Value} {levels : Nat}

/-! ## Credentials with their secrets replaced -/

namespace Credential

theorem height_redact : (credential : Credential) → credential.redact.height = credential.height
  | .accessKey _ => rfl
  | .serviceAccount => rfl
  | .assumeRole none _ => rfl
  | .assumeRole (some base) _ => congrArg (· + 1) base.height_redact

/-- Wherever something is decoded, null decodes to nothing. -/
theorem decodeWithin_null_of_ok {found : Option Credential}
    (decoded : (decodeWithin levels nested).outcome = .ok found) :
    decodeWithin levels .null = pure none := by
  cases levels with
  | zero =>
      rw [decodeWithin_zero] at decoded
      cases decoded
  | succ levels => rfl

end Credential

open Aws.Credential

theorem AccessKey.ofMap_update_secret {key : AccessKey} (read : ofMap values = .ok key) :
    ofMap (values.update "secret" Envelope.redactValue) = .ok key.redact := by
  obtain ⟨id, secret⟩ := ofMap_eq_ok_iff.mp read
  refine ofMap_eq_ok_iff.mpr ⟨?_, ?_⟩
  · rw [Dict.get?_update, if_neg (by decide)]
    exact id
  · rw [Dict.get?_update, if_pos rfl, secret, Option.map_some, Envelope.redactValue_string]
    rfl

/-! ## One level -/

/-- Redaction preserves what the values of an envelope decode to: values that decode to a credential
without an error are redacted to values that decode to the redacted credential, without an event. -/
def Preserved (envelope : Envelope) : Prop :=
  ∀ levels ≤ maxDepth, ∀ credential,
    (ofTagged (decodeWithin levels) envelope.tag envelope.values).outcome = .ok credential →
    errors (ofTagged (decodeWithin levels) envelope.tag envelope.values).notes = [] →
    ofTagged (decodeWithin levels) envelope.tag (sanitize envelope).value.values =
      pure credential.redact

/-- A nested entry that is read by its shape. -/
theorem decodeWithin_cleanNested_of_shape {base : Option Credential}
    (untagged : Envelope.isReadByTag .aws entries = false) (small : levels ≤ maxDepth)
    (decoded : (decodeWithin levels (.object entries)).outcome = .ok base) :
    decodeWithin levels ((cleanNested (.object entries)).value.getD .null) =
      pure (base.map redact) := by
  have again : decodeAt 0 (.object entries) = decodeWithin levels (.object entries) :=
    decodeWithin_of_le (not_tooDeep_of_decodeWithin decoded) (Nat.le_succ_of_le small)
  have outcome : (decodeAt 0 (.object entries)).settle.value = .ok base := by
    rw [again]
    exact decoded
  rw [cleanNested_of_shape untagged, sanitizeByShape, Logged.value_bind, outcome]
  cases base with
  | none => exact decodeWithin_null_of_ok decoded
  | some credential =>
      have fits : credential.redact.height < levels := by
        rw [height_redact]
        exact height_lt_of_decodeWithin decoded
      exact (decodeWithin_toEnvelope credential.redact levels).trans (if_pos fits)

/-- A nested entry that is read by its tag. -/
theorem decodeWithin_cleanNested_of_tag {base : Option Credential}
    (tagged : Envelope.isReadByTag .aws entries = true) (small : levels ≤ maxDepth)
    (inside : ∀ inner, Envelope.ofMap .aws entries = .ok inner → Preserved inner)
    (decoded : (decodeWithin levels (.object entries)).outcome = .ok base)
    (quiet : errors (decodeWithin levels (.object entries)).notes = []) :
    decodeWithin levels ((cleanNested (.object entries)).value.getD .null) =
      pure (base.map redact) := by
  have nothing := decodeWithin_null_of_ok decoded
  obtain ⟨type, noArn, noId⟩ := isReadByTag_aws_iff.mp tagged
  cases levels with
  | zero =>
      rw [decodeWithin_zero] at decoded
      cases decoded
  | succ levels =>
      rw [decodeWithin_of_type noArn noId type] at decoded quiet
      cases read : Envelope.ofMap .aws entries with
      | error failure =>
          rw [read] at decoded
          cases decoded
      | ok inner =>
          rw [read, Attempt.liftM_ok, pure_bind] at decoded quiet
          by_cases owned : inner.tag ∈ Provider.tags .aws
          · have nonempty := ne_empty_of_owned owned
            rw [Envelope.resolve_of_tag nonempty] at decoded quiet
            obtain ⟨credential, rfl, reached, silent⟩ :=
              Envelope.yields_tolerate_iff.mp ⟨decoded, quiet⟩
            have kept := inside inner read levels (Nat.le_of_succ_le small) credential reached
              silent
            rw [cleanNested_of_owned tagged read owned, Logged.value_map, Option.getD_some,
              decodeWithin_toValue, Envelope.resolve_of_tag (by rwa [tag_sanitize]),
              tag_sanitize, kept]
            rfl
          · rw [cleanNested_of_foreign tagged read owned]
            by_cases empty : inner.tag = ""
            · rw [Envelope.resolve_of_empty_tag empty] at decoded
              cases decoded
              exact nothing
            · rw [Envelope.resolve_of_tag empty] at decoded quiet
              obtain ⟨credential, _, reached, _⟩ :=
                Envelope.yields_tolerate_iff.mp ⟨decoded, quiet⟩
              have foreign : ofTagged (decodeWithin levels) inner.tag inner.values =
                  .fail (.ofCause (.unrecognizedTag inner.tag)) := by
                simp only [Provider.tags, List.mem_cons, List.not_mem_nil, or_false,
                  not_or] at owned
                exact ofTagged_of_foreign owned.1 owned.2.1 owned.2.2
              rw [foreign] at reached
              cases reached

/-- What the nested entry is replaced by decodes to the redacted credential, if the entry decodes to
the credential without an error. -/
theorem decodeWithin_cleanNested {base : Option Credential} (small : levels ≤ maxDepth)
    (inside : ∀ entries inner, nested = .object entries →
      Envelope.ofMap .aws entries = .ok inner → Preserved inner)
    (decoded : (decodeWithin levels nested).outcome = .ok base)
    (quiet : errors (decodeWithin levels nested).notes = []) :
    decodeWithin levels ((cleanNested nested).value.getD .null) = pure (base.map redact) := by
  have nothing := decodeWithin_null_of_ok decoded
  cases nested with
  | null =>
      rw [nothing] at decoded
      cases decoded
      exact nothing
  | bool | number | string | array =>
      cases levels with
      | zero =>
          rw [decodeWithin_zero] at decoded
          cases decoded
      | succ levels =>
          rw [decodeWithin_of_not_map rfl (by simp)] at decoded
          cases decoded
  | object entries =>
      cases tagged : Envelope.isReadByTag .aws entries with
      | true =>
          exact decodeWithin_cleanNested_of_tag tagged small (fun inner => inside entries inner rfl)
            decoded quiet
      | false => exact decodeWithin_cleanNested_of_shape tagged small decoded

/-! ## Every level -/

/-- The values of a role's envelope after redaction: the nested entry is what it is replaced by, or
null. -/
theorem values_sanitize_of_nested (role : envelope.tag = assumeRoleTag)
    (found : envelope.values.get? "configurer" = some nested) (present : nested ≠ .null) :
    (sanitize envelope).value.values =
      envelope.values.update "configurer" fun _ => (cleanNested nested).value.getD .null := by
  rw [sanitize_of_nested role found present, Logged.value_bind]
  cases (cleanNested nested).value <;> rfl

/-- A role's envelope is preserved if the envelopes that can be read out of it are. -/
theorem preserved_of_role (role : envelope.tag = assumeRoleTag)
    (inside : ∀ entries inner, envelope.values.get? "configurer" = some (.object entries) →
      Envelope.ofMap .aws entries = .ok inner → Preserved inner) : Preserved envelope := by
  intro levels small credential decoded quiet
  rw [role, ofTagged_assumeRole] at decoded quiet
  rw [role, ofTagged_assumeRole]
  obtain ⟨roleArn, arn, rest⟩ := outcome_roleOfMap_eq_ok_iff.mp decoded
  cases present : present? envelope.values "configurer" with
  | none =>
      rw [present] at rest
      subst rest
      rw [sanitize_of_bare_role role present]
      exact roleOfMap_of_bare arn present
  | some nested =>
      rw [present] at rest
      obtain ⟨base, below, rfl⟩ := rest
      obtain ⟨found, notNull⟩ := Json.present?_eq_some_iff.mp present
      rw [roleOfMap_of_nested arn present, roleOver_of_ok below] at quiet
      have clean := decodeWithin_cleanNested small
        (fun entries inner same => inside entries inner (same ▸ found)) below quiet
      rw [values_sanitize_of_nested role found notNull, redact_assumeRole]
      rw [roleOfMap_of_found _ _ (decodeWithin_null_of_ok below), clean]
      · rfl
      · rw [Dict.get?_update, if_neg (by decide)]
        exact arn
      · rw [Dict.get?_update, if_pos rfl, found, Option.map_some]

theorem preserved (envelope : Envelope) : Preserved envelope := by
  induction envelope using nested_induction with
  | step envelope ih =>
      by_cases role : envelope.tag = assumeRoleTag
      · exact preserved_of_role role ih
      · intro levels _ credential decoded _
        by_cases key : envelope.tag = accessKeyTag
        · rw [key, ofTagged_accessKey] at decoded
          obtain ⟨accessKey, read, rfl⟩ := outcome_keyOfMap_eq_ok_iff.mp decoded
          rw [sanitize_of_accessKey key, key, ofTagged_accessKey, keyOfMap]
          simp [Envelope.redactEntry, AccessKey.ofMap_update_secret read, redact]
        · rw [sanitize_of_other key role]
          by_cases account : envelope.tag = serviceAccountTag
          · rw [account, ofTagged_serviceAccount] at decoded
            cases decoded
            rw [account]
            rfl
          · rw [ofTagged_of_foreign key account role] at decoded
            cases decoded

theorem ofEnvelope_eq (envelope : Envelope) :
    CloudBilling.Credential.ofEnvelope .aws envelope =
      envelope.open? .aws (ofTagged (decodeWithin maxDepth)) := rfl

/-- An envelope that opens to a credential without an error opens after redaction to that credential
with its secrets replaced, and without any event. -/
theorem ofEnvelope_sanitize (envelope : Envelope) (credential : Credential)
    (opened : (CloudBilling.Credential.ofEnvelope .aws envelope).value = some credential)
    (quiet : errors (CloudBilling.Credential.ofEnvelope .aws envelope).notes = []) :
    CloudBilling.Credential.ofEnvelope .aws (sanitize envelope).value =
      pure (some credential.redact) := by
  rw [ofEnvelope_eq] at opened quiet
  obtain ⟨nonempty, decoded⟩ := Envelope.value_open?_eq_some_iff.mp opened
  rw [Envelope.open?_of_resolve (Envelope.outcome_resolve_eq_some_iff.mpr ⟨nonempty, decoded⟩),
    Envelope.resolve_of_tag nonempty, Envelope.tolerate_of_ok decoded] at quiet
  have kept := preserved envelope maxDepth (Nat.le_refl _) credential decoded quiet
  have resolved : (sanitize envelope).value.resolve .aws (ofTagged (decodeWithin maxDepth)) =
      pure (some credential.redact) := by
    rw [Envelope.resolve_of_tag (by rwa [tag_sanitize]), tag_sanitize, kept]
    rfl
  rw [ofEnvelope_eq, Envelope.open?_of_resolve (congrArg Attempt.outcome resolved), resolved]
  rfl

/-- A role in an envelope, over a map that is tagged as a service account but has the keys of a
role, over a map that is recognized as an access key by its shape. -/
theorem ofEnvelope_sanitize_mixed_levels :
    let key : Value := .object [("id", .string "AKIA"), ("secret", .string "secret")]
    let inner : Value := .object [("configurer", key), ("roleARN", .string "inner"),
      ("type", .string serviceAccountTag)]
    let envelope : Envelope :=
      ⟨assumeRoleTag, [("configurer", inner), ("roleARN", .string "outer")]⟩
    let chain (secret : String) : Credential :=
      .assumeRole (some (.assumeRole (some (.accessKey ⟨"AKIA", secret⟩)) "inner")) "outer"
    CloudBilling.Credential.ofEnvelope .aws envelope = pure (some (chain "secret")) ∧
      CloudBilling.Credential.ofEnvelope .aws (sanitize envelope).value =
        pure (some (chain redacted)) := by
  intro key inner envelope chain
  have opened : CloudBilling.Credential.ofEnvelope .aws envelope =
      pure (some (chain "secret")) := rfl
  exact ⟨opened, ofEnvelope_sanitize envelope (chain "secret") (congrArg Logged.value opened)
    (congrArg (errors ∘ Logged.notes) opened)⟩

end CloudBilling.Aws
