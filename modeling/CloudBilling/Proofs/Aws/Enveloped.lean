import CloudBilling.Proofs.Aws.Descent
import CloudBilling.Proofs.Errors

/-!
# Credentials with and without envelopes

At every level of a chain of roles the credential can be written as a map that is recognized by its
keys, or in an envelope.  If one way of writing a chain decodes without an error, so does every way
in which some of its flat levels are put into envelopes, and to the same credential.  Both forms of
a level hand on what is read there, so the levels can be taken one by one.
-/

namespace CloudBilling.Aws.Credential

open Json (Value present?)

/-- Some of the flat levels of a value are put into envelopes.  At a role, whether it is put into an
envelope, left flat, or was in an envelope before, the same may be done to the nested entry. -/
inductive Enveloped : Value → Value → Prop
  | same (value : Value) : Enveloped value value
  | account : Enveloped (.object []) (Envelope.toValue ⟨serviceAccountTag, []⟩)
  | key {entries : Dict Value} :
      entries.has "roleARN" = false → entries.has "id" = true →
      Enveloped (.object entries) (Envelope.toValue ⟨accessKeyTag, entries⟩)
  | role {entries : Dict Value} {other : Value} :
      entries.has "roleARN" = true →
      (∀ nested, entries.get? "configurer" = some nested → Enveloped nested other) →
      Enveloped (.object entries)
        (Envelope.toValue ⟨assumeRoleTag, entries.update "configurer" fun _ => other⟩)
  | flatRole {entries : Dict Value} {other : Value} :
      entries.has "roleARN" = true →
      (∀ nested, entries.get? "configurer" = some nested → Enveloped nested other) →
      Enveloped (.object entries) (.object (entries.update "configurer" fun _ => other))
  | taggedRole {entries values : Dict Value} {other : Value} :
      entries.has "roleARN" = false → entries.has "id" = false →
      entries.get? "type" = some (.string assumeRoleTag) →
      entries.get? "values" = some (.object values) →
      (∀ nested, values.get? "configurer" = some nested → Enveloped nested other) →
      Enveloped (.object entries)
        (.object (entries.update "values" fun _ =>
          .object (values.update "configurer" fun _ => other)))

variable {value nested other : Value} {entries values : Dict Value} {levels : Nat}
variable {former latter : Decoder Credential} {found : Option Credential} {credential : Credential}
variable {inner : Value → Decoder (Option Credential)}

/-- Null is no level, and no level becomes null. -/
theorem Enveloped.null_iff (enveloped : Enveloped nested other) :
    other = .null ↔ nested = .null := by
  cases enveloped with
  | same => exact Iff.rfl
  | account | key | role => simp [Envelope.toValue_eq_object]
  | flatRole | taggedRole => simp

/-! ## One level -/

/-- Both forms of a level hand on what is read there. -/
theorem RoleForm.yields_carry_iff (form : RoleForm) :
    (form.carry former).Yields found ↔
      ∃ credential, found = some credential ∧ former.Yields credential := by
  cases form with
  | flat =>
      rw [carry, Attempt.yields_bind_iff]
      apply exists_congr
      intro credential
      rw [and_comm]
      exact and_congr_left' ⟨fun yields => (Except.ok.inj yields.1).symm,
        fun same => same ▸ Attempt.yields_pure _⟩
  | tagged => exact Envelope.yields_tolerate_iff

/-- What one form of a level yields the other one yields, if there at least as much is read. -/
theorem RoleForm.yields_carry_of_carry (form : RoleForm) (otherForm : RoleForm)
    (kept : ∀ credential, former.Yields credential → latter.Yields credential)
    (yields : (form.carry former).Yields found) : (otherForm.carry latter).Yields found := by
  obtain ⟨credential, same, read⟩ := form.yields_carry_iff.mp yields
  exact otherForm.yields_carry_iff.mpr ⟨credential, same, kept credential read⟩

theorem decodeWithin_envelope {tag : String} (nonempty : tag ≠ "") :
    decodeWithin (levels + 1) (Envelope.toValue ⟨tag, values⟩) =
      RoleForm.tagged.carry (ofTagged (decodeWithin levels) tag values) := by
  rw [decodeWithin_toValue]
  exact Envelope.resolve_of_tag nonempty

/-- A role is read over what the nested entry yields. -/
theorem yields_roleOfMap_iff :
    (roleOfMap inner entries).Yields credential ↔
      ∃ roleArn, entries.get? "roleARN" = some (.string roleArn) ∧
        match present? entries "configurer" with
        | none => credential = .assumeRole none roleArn
        | some nested => ∃ base, (inner nested).Yields base ∧
            credential = .assumeRole base roleArn := by
  cases arnField : Json.field .string entries "roleARN" with
  | error failure =>
      rw [roleOfMap_of_unnamed arnField]
      constructor
      · rintro ⟨decoded, _⟩
        cases decoded
      · rintro ⟨roleArn, arn, _⟩
        rw [Json.field_string_eq_ok_iff.mpr arn] at arnField
        cases arnField
  | ok roleArn =>
      have arn := Json.field_string_eq_ok_iff.mp arnField
      cases present : present? entries "configurer" with
      | none => simp [roleOfMap_of_bare arn present, arn, Attempt.Yields, eq_comm]
      | some nested =>
          rw [roleOfMap_of_nested arn present, roleOver, Attempt.yields_within_iff,
            Attempt.yields_bind_iff]
          simp [arn, Attempt.Yields, eq_comm]

/-- A role is not changed by another way of writing the nested entry. -/
theorem yields_roleOfMap_update
    (enveloped : ∀ nested, entries.get? "configurer" = some nested → Enveloped nested other)
    (kept : ∀ nested, entries.get? "configurer" = some nested → ∀ found,
      (inner nested).Yields found → (inner other).Yields found)
    (yields : (roleOfMap inner entries).Yields credential) :
    (roleOfMap inner (entries.update "configurer" fun _ => other)).Yields credential := by
  obtain ⟨roleArn, arn, read⟩ := yields_roleOfMap_iff.mp yields
  have placed : present? (entries.update "configurer" fun _ => other) "configurer" =
      (present? entries "configurer").map fun _ => other := by
    apply Json.present?_eq_map
    · rw [Dict.get?_update, if_pos rfl]
    · intro nested stands
      exact (enveloped nested stands).null_iff
  refine yields_roleOfMap_iff.mpr ⟨roleArn, ?_, ?_⟩
  · rw [Dict.get?_update, if_neg (by decide)]
    exact arn
  · rw [placed]
    cases present : present? entries "configurer" with
    | none =>
        rw [present] at read
        exact read
    | some nested =>
        rw [present] at read
        obtain ⟨base, below, same⟩ := read
        exact ⟨base, kept nested (Json.present?_eq_some_iff.mp present).1 base below, same⟩

/-! ## Every level -/

/-- What a value yields it still yields after some of its flat levels were put into envelopes. -/
theorem Enveloped.yields (enveloped : Enveloped value other)
    (yields : (decodeWithin levels value).Yields found) :
    (decodeWithin levels other).Yields found := by
  induction levels generalizing value other found with
  | zero =>
      rw [decodeWithin_zero] at yields
      cases yields.1
  | succ levels ih =>
      cases enveloped with
      | same => exact yields
      | account => exact ⟨yields.1, rfl⟩
      | key noArn id =>
          rw [decodeWithin_of_id noArn id] at yields
          rw [decodeWithin_envelope (by decide : accessKeyTag ≠ "")]
          exact RoleForm.flat.yields_carry_of_carry .tagged (fun _ read => read) yields
      | role arn nested =>
          rw [decodeWithin_flatRole arn] at yields
          rw [decodeWithin_envelope (by decide : assumeRoleTag ≠ "")]
          refine RoleForm.flat.yields_carry_of_carry .tagged ?_ yields
          intro credential
          exact yields_roleOfMap_update nested fun entry stands _ => ih (nested entry stands)
      | flatRole arn nested =>
          rw [decodeWithin_flatRole arn] at yields
          rw [decodeWithin_flatRole (by rwa [Dict.has, Dict.get?_update, if_neg (by decide)])]
          refine RoleForm.flat.yields_carry_of_carry .flat ?_ yields
          intro credential
          exact yields_roleOfMap_update nested fun entry stands _ => ih (nested entry stands)
      | @taggedRole entries values other noArn noId tag bag nested =>
          have untouched {key : String} (another : key ≠ "values") :
              (entries.update "values" fun _ =>
                .object (values.update "configurer" fun _ => other)).get? key =
                  entries.get? key := by
            rw [Dict.get?_update, if_neg another]
          rw [decodeWithin_taggedRole noArn noId tag bag] at yields
          rw [decodeWithin_taggedRole]
          · refine RoleForm.tagged.yields_carry_of_carry .tagged ?_ yields
            intro credential
            exact yields_roleOfMap_update nested fun entry stands _ => ih (nested entry stands)
          · rwa [Dict.has, untouched (by decide)]
          · rwa [Dict.has, untouched (by decide)]
          · rwa [untouched (by decide)]
          · rw [Dict.get?_update, if_pos rfl, bag, Option.map_some]

/-- A value that decodes without an error decodes to the same, and again without an error, after some
of its flat levels were put into envelopes, at whatever depth it stands. -/
theorem decodeAt_of_enveloped (depth : UInt64) {value other : Value} {found : Option Credential}
    (enveloped : Enveloped value other) (decoded : (decodeAt depth value).outcome = .ok found)
    (quiet : errors (decodeAt depth value).notes = []) :
    (decodeAt depth other).outcome = .ok found ∧ errors (decodeAt depth other).notes = [] :=
  enveloped.yields ⟨decoded, quiet⟩

/-- A flat role over a role in an envelope over a flat access key with the tag of a role.  The first
and the last of these levels are put into envelopes, and the last one stands as deep as it may. -/
theorem decodeAt_of_enveloped_first_and_last :
    let key : Dict Value :=
      [("id", .string "AKIA"), ("secret", .string "secret"), ("type", .string assumeRoleTag)]
    let role (roleArn : String) (nested : Value) : Dict Value :=
      [("configurer", nested), ("roleARN", .string roleArn)]
    let inner (nested : Value) : Value :=
      .object [("type", .string assumeRoleTag), ("values", .object (role "inner" nested))]
    let value : Value := .object (role "outer" (inner (.object key)))
    let other : Value := Envelope.toValue
      ⟨assumeRoleTag, role "outer" (inner (Envelope.toValue ⟨accessKeyTag, key⟩))⟩
    let chain : Credential :=
      .assumeRole (some (.assumeRole (some (.accessKey ⟨"AKIA", "secret"⟩)) "inner")) "outer"
    (Enveloped value other ∧ (decodeAt 6 value).outcome = .ok (some chain) ∧
      errors (decodeAt 6 value).notes = []) ∧
    (decodeAt 6 other).outcome = .ok (some chain) ∧ errors (decodeAt 6 other).notes = [] := by
  intro key role inner value other chain
  have last : Enveloped (.object key) (Envelope.toValue ⟨accessKeyTag, key⟩) := .key rfl rfl
  have middle : Enveloped (inner (.object key)) (inner (Envelope.toValue ⟨accessKeyTag, key⟩)) := by
    refine @Enveloped.taggedRole _ (role "inner" (.object key)) _ rfl rfl rfl rfl ?_
    intro nested stands
    cases stands
    exact last
  have first : Enveloped value other := by
    refine @Enveloped.role (role "outer" (inner (.object key))) _ rfl ?_
    intro nested stands
    cases stands
    exact middle
  have decoded : (decodeAt 6 value).outcome = .ok (some chain) := rfl
  have quiet : errors (decodeAt 6 value).notes = [] := rfl
  exact ⟨⟨first, decoded, quiet⟩, decodeAt_of_enveloped 6 first decoded quiet⟩

end CloudBilling.Aws.Credential
