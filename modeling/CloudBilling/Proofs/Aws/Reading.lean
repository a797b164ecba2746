import CloudBilling.Credential.Aws
import CloudBilling.Proofs.Envelope

/-!
# How AWS credentials are read

One rule for each way in which a value is read as a credential: by the shape of a map, by the tag of
an envelope, as a role over the credential that is nested in it.  The rules are those of decoding,
with what a level does to a nested entry kept apart from what decoding that entry comes to.
-/

namespace CloudBilling.Aws

open Json (Value present?)

namespace AccessKey

variable {entries : Dict Value} {key : AccessKey}

theorem ofMap_eq_ok_iff :
    ofMap entries = .ok key ↔
      entries.get? "id" = some (.string key.id) ∧
        entries.get? "secret" = some (.string key.secret) := by
  rw [← Json.field_string_eq_ok_iff, ← Json.field_string_eq_ok_iff, ofMap]
  obtain ⟨id, secret⟩ := key
  cases Json.field .string entries "id" with
  | error failure => simp [bind, Except.bind]
  | ok foundId =>
      cases Json.field .string entries "secret" with
      | error failure => simp [bind, Except.bind]
      | ok foundSecret => simp [bind, Except.bind, pure, Except.pure]

theorem withinLimit_ofMap (entries : Dict Value) : (ofMap entries).WithinLimit := by
  apply Outcome.WithinLimit.within
  apply Outcome.WithinLimit.bind (Json.withinLimit_field _ _ _)
  intro id
  apply Outcome.WithinLimit.bind (Json.withinLimit_field _ _ _)
  exact fun secret => Outcome.withinLimit_ok _

end AccessKey

namespace Credential

variable {value nested : Value} {entries values : Dict Value} {roleArn : String}
variable {inner : Value → Decoder (Option Credential)} {levels : Nat}

/-! ## Roles -/

/-- A role with what was decoded for the credential below it. -/
def roleOver (roleArn : String) (base : Decoder (Option Credential)) : Decoder Credential :=
  Attempt.within assumeRoleName do return .assumeRole (← base) roleArn

theorem roleOver_of_ok {base : Decoder (Option Credential)} {credential : Option Credential}
    (decoded : base.outcome = .ok credential) :
    roleOver roleArn base = ⟨.ok (.assumeRole credential roleArn), base.notes⟩ := by
  simp [roleOver, Attempt.within, Attempt.bind_of_ok _ decoded]

theorem roleOver_of_error {base : Decoder (Option Credential)} {failure : Failure}
    (failed : base.outcome = .error failure) :
    roleOver roleArn base = ⟨.error (failure.within assumeRoleName), base.notes⟩ := by
  simp [roleOver, Attempt.within, Attempt.bind_of_error _ failed]

theorem outcome_roleOver_eq_ok_iff {base : Decoder (Option Credential)}
    {credential : Credential} :
    (roleOver roleArn base).outcome = .ok credential ↔
      ∃ below, base.outcome = .ok below ∧ credential = .assumeRole below roleArn := by
  cases reached : base.outcome with
  | ok below => simp [roleOver_of_ok reached, eq_comm]
  | error failure => simp [roleOver_of_error reached]

theorem outcome_roleOver_eq_error_iff {base : Decoder (Option Credential)}
    {failure : Failure} :
    (roleOver roleArn base).outcome = .error failure ↔
      ∃ below, base.outcome = .error below ∧ failure = below.within assumeRoleName := by
  cases reached : base.outcome with
  | ok below => simp [roleOver_of_ok reached]
  | error below => simp [roleOver_of_error reached, eq_comm]

theorem redact_assumeRole (base : Option Credential) (roleArn : String) :
    (assumeRole base roleArn).redact = assumeRole (base.map redact) roleArn := by
  cases base <;> rfl

theorem roleOfMap_of_nested (arn : entries.get? "roleARN" = some (.string roleArn))
    (present : present? entries "configurer" = some nested) :
    roleOfMap inner entries = roleOver roleArn (inner nested) := by
  have arnField := Json.field_string_eq_ok_iff.mpr arn
  simp [roleOfMap, roleOver, arnField, present]

theorem roleOfMap_of_bare (arn : entries.get? "roleARN" = some (.string roleArn))
    (absent : present? entries "configurer" = none) :
    roleOfMap inner entries = pure (.assumeRole none roleArn) := by
  have arnField := Json.field_string_eq_ok_iff.mpr arn
  simp [roleOfMap, arnField, absent]

/-- Where null decodes to nothing, a nested null need not be told from any other entry. -/
theorem roleOfMap_of_found (arn : entries.get? "roleARN" = some (.string roleArn))
    (found : entries.get? "configurer" = some nested) (nothing : inner .null = pure none) :
    roleOfMap inner entries = roleOver roleArn (inner nested) := by
  by_cases null : nested = .null
  · rw [roleOfMap_of_bare arn (Json.present?_eq_none_iff.mpr (.inr (null ▸ found))), null,
      nothing]
    rfl
  · exact roleOfMap_of_nested arn (Json.present?_eq_some_iff.mpr ⟨found, null⟩)

theorem roleOfMap_of_unnamed {failure : Failure}
    (unnamed : Json.field .string entries "roleARN" = .error failure) :
    roleOfMap inner entries = .fail (failure.within assumeRoleName) := by
  simp [roleOfMap, unnamed]

/-- A role is read out of a map with its name, over no credential if none is nested there, else over
what the nested entry is decoded to. -/
theorem outcome_roleOfMap_eq_ok_iff {credential : Credential} :
    (roleOfMap inner entries).outcome = .ok credential ↔
      ∃ roleArn, entries.get? "roleARN" = some (.string roleArn) ∧
        match present? entries "configurer" with
        | none => credential = .assumeRole none roleArn
        | some nested => ∃ base, (inner nested).outcome = .ok base ∧
            credential = .assumeRole base roleArn := by
  cases arnField : Json.field .string entries "roleARN" with
  | error failure =>
      rw [roleOfMap_of_unnamed arnField]
      constructor
      · intro decoded
        cases decoded
      · rintro ⟨roleArn, arn, _⟩
        rw [Json.field_string_eq_ok_iff.mpr arn] at arnField
        cases arnField
  | ok roleArn =>
      have arn := Json.field_string_eq_ok_iff.mp arnField
      cases present : present? entries "configurer" with
      | none => simp [roleOfMap_of_bare arn present, arn, eq_comm]
      | some nested => simp [roleOfMap_of_nested arn present, arn, outcome_roleOver_eq_ok_iff]

/-! ## The values of envelopes -/

/-- An access key that is read out of a map, as a credential. -/
def keyOfMap (entries : Dict Value) : Decoder Credential := do
  return .accessKey (← AccessKey.ofMap entries)

theorem ofTagged_accessKey :
    ofTagged inner accessKeyTag values = keyOfMap values := rfl

theorem ofTagged_serviceAccount :
    ofTagged inner serviceAccountTag values = pure .serviceAccount := rfl

theorem ofTagged_assumeRole :
    ofTagged inner assumeRoleTag values = roleOfMap inner values := rfl

theorem ofTagged_of_foreign {tag : String} (notKey : tag ≠ accessKeyTag)
    (notAccount : tag ≠ serviceAccountTag) (notRole : tag ≠ assumeRoleTag) :
    ofTagged inner tag values = .fail (.ofCause (.unrecognizedTag tag)) := by
  simp [ofTagged, notKey, notAccount, notRole]

theorem outcome_keyOfMap_eq_ok_iff {credential : Credential} :
    (keyOfMap entries).outcome = .ok credential ↔
      ∃ key, AccessKey.ofMap entries = .ok key ∧ credential = .accessKey key := by
  rw [keyOfMap]
  cases AccessKey.ofMap entries with
  | ok key => simp [eq_comm]
  | error failure =>
      constructor
      · intro decoded
        cases decoded
      · rintro ⟨key, read, _⟩
        cases read

/-! ## The shapes of values -/

theorem decodeWithin_null : decodeWithin (levels + 1) .null = pure none := rfl

theorem decodeWithin_of_not_map (notMap : value.object? = none) (notNull : value ≠ .null) :
    decodeWithin (levels + 1) value =
      .fail ⟨[Provider.typeName .aws], .notMap value.kind⟩ := by
  rw [decodeWithin.eq_3 _ _ notNull, Json.asMap, notMap]
  rfl

theorem decodeWithin_empty :
    decodeWithin (levels + 1) (.object []) =
      ⟨.ok (some .serviceAccount),
        [⟨.debug, .aws, "AWSConfigurer: empty configurer, using service account."⟩]⟩ := rfl

theorem decodeWithin_of_roleArn (arn : entries.has "roleARN" = true) :
    decodeWithin (levels + 1) (.object entries) = do
      return some (← roleOfMap (decodeWithin levels) entries) := by
  simp [decodeWithin, Json.asMap, Value.object?, Dict.ne_nil_of_has arn, arn]

theorem decodeWithin_of_id (noArn : entries.has "roleARN" = false)
    (id : entries.has "id" = true) :
    decodeWithin (levels + 1) (.object entries) = do
      return some (← keyOfMap entries) := by
  simp [decodeWithin, Json.asMap, Value.object?, Dict.ne_nil_of_has id, noArn, id,
    keyOfMap]

theorem decodeWithin_of_type (noArn : entries.has "roleARN" = false)
    (noId : entries.has "id" = false) (tag : entries.has "type" = true) :
    decodeWithin (levels + 1) (.object entries) = (do
      let envelope ← Envelope.ofMap .aws entries
      envelope.resolve .aws (ofTagged (decodeWithin levels))) := by
  simp [decodeWithin, Json.asMap, Value.object?, Dict.ne_nil_of_has tag, noArn, noId, tag]

theorem isReadByTag_aws_iff :
    Envelope.isReadByTag .aws entries = true ↔
      entries.has "type" = true ∧ entries.has "roleARN" = false ∧ entries.has "id" = false := by
  simp [Envelope.isReadByTag_iff, Provider.shapeKeys]

/-- A map that is read by its tag as the envelope of a role. -/
theorem decodeWithin_of_roleTag (noArn : entries.has "roleARN" = false)
    (noId : entries.has "id" = false)
    (read : Envelope.ofMap .aws entries = .ok ⟨assumeRoleTag, values⟩) :
    decodeWithin (levels + 1) (.object entries) =
      Envelope.tolerate .aws (roleOfMap (decodeWithin levels) values) := by
  obtain ⟨tag, _⟩ := Envelope.ofMap_eq_ok_iff.mp read
  rw [decodeWithin_of_type noArn noId (by simp [Dict.has, tag]), read]
  have nonempty : (⟨assumeRoleTag, values⟩ : Envelope).tag ≠ "" := by simp [assumeRoleTag]
  exact Envelope.resolve_of_tag nonempty

theorem decodeWithin_of_unrecognized (nonempty : entries ≠ [])
    (noArn : entries.has "roleARN" = false) (noId : entries.has "id" = false)
    (noTag : entries.has "type" = false) :
    decodeWithin (levels + 1) (.object entries) =
      .fail ⟨[Provider.typeName .aws], .unrecognizedShape⟩ := by
  simp [decodeWithin, Json.asMap, Value.object?, nonempty, noArn, noId, noTag]

/-- The value of an envelope is decoded as that envelope. -/
theorem decodeWithin_toValue (envelope : Envelope) :
    decodeWithin (levels + 1) envelope.toValue =
      envelope.resolve .aws (ofTagged (decodeWithin levels)) := by
  rw [Envelope.toValue_eq_object, decodeWithin_of_type, Envelope.ofMap_entries]
  · simp
  · exact Envelope.has_entries_of_ne envelope (by decide) (by decide)
  · exact Envelope.has_entries_of_ne envelope (by decide) (by decide)
  · exact Envelope.has_entries_type envelope

/-! ## Envelopes of credentials -/

theorem tag_toEnvelope_mem (credential : Credential) :
    credential.toEnvelope.tag ∈ Provider.tags .aws := by
  cases credential with
  | accessKey key => exact List.mem_cons_self
  | serviceAccount => exact List.mem_cons_of_mem _ List.mem_cons_self
  | assumeRole base roleArn =>
      cases base <;> exact List.mem_cons_of_mem _ (List.mem_cons_of_mem _ List.mem_cons_self)

theorem ne_empty_of_owned {tag : String} (owned : tag ∈ Provider.tags .aws) : tag ≠ "" := by
  rintro rfl
  exact absurd owned (by decide)

theorem tag_toEnvelope_ne_empty (credential : Credential) : credential.toEnvelope.tag ≠ "" :=
  ne_empty_of_owned (tag_toEnvelope_mem credential)

/-- The failure of a chain of roles that goes on below the last level that may be entered. -/
def limitFailure (levels : Nat) : Failure :=
  ⟨List.replicate levels assumeRoleName ++ [Provider.typeName .aws], .nestingTooDeep maxDepth⟩

theorem within_limitFailure (levels : Nat) :
    (limitFailure levels).within assumeRoleName = limitFailure (levels + 1) := rfl

theorem decodeWithin_zero : decodeWithin 0 value = .fail (limitFailure 0) := by
  cases value <;> rfl

end Credential

end CloudBilling.Aws
