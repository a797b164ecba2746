import CloudBilling.Proofs.Aws.Reading

/-!
# One level of AWS decoding

An AWS credential is decoded level by level: a role is read out of a map, and the credential with
which it is assumed out of the entry nested in that map.  This module says once what a single level
does.  Either it ends there, whatever nesting is still allowed, or it goes on with exactly one
nested entry, and then what the level comes to is a fixed function of what that entry comes to.
Every statement about whole chains is an induction over these cases.
-/

namespace CloudBilling.Aws.Credential

open Json (Value present?)

/-! ## Where a level goes on -/

/-- The entry with which decoding goes on below a value: the nested entry of a map with the name
of a role, or of the values of an envelope of a role.  The shape of a map counts before its tag. -/
inductive Enters : Value → Value → Prop
  | flat {entries : Dict Value} {roleArn : String} {nested : Value} :
      entries.get? "roleARN" = some (.string roleArn) →
      entries.get? "configurer" = some nested → Enters (.object entries) nested
  | tagged {entries values : Dict Value} {roleArn : String} {nested : Value} :
      entries.has "roleARN" = false → entries.has "id" = false →
      entries.get? "type" = some (.string assumeRoleTag) →
      entries.get? "values" = some (.object values) →
      values.get? "roleARN" = some (.string roleArn) →
      values.get? "configurer" = some nested → Enters (.object entries) nested

variable {value nested other : Value} {entries values : Dict Value} {roleArn : String}
variable {inner : Value → Decoder (Option Credential)} {levels : Nat}

theorem Enters.deterministic (former : Enters value nested) (latter : Enters value other) :
    nested = other := by
  cases former with
  | flat arn found =>
      cases latter with
      | flat _ foundOther => simpa [found] using foundOther
      | tagged noArn => simp [Dict.has, arn] at noArn
  | tagged noArn _ _ bag _ found =>
      cases latter with
      | flat arn => simp [Dict.has, arn] at noArn
      | tagged _ _ _ otherBag _ foundOther =>
          rw [bag] at otherBag
          cases otherBag
          simpa [found] using foundOther

theorem not_enters_null : ¬ Enters .null nested := by
  intro enters
  cases enters

/-- A map below which decoding goes on is read as a role, by its shape or by its tag. -/
theorem Enters.reads (enters : Enters (.object entries) nested) :
    entries.has "roleARN" = true ∨
      entries.has "id" = false ∧
        ∃ values, Envelope.ofMap .aws entries = .ok ⟨assumeRoleTag, values⟩ := by
  cases enters with
  | flat arn => exact .inl (by simp [Dict.has, arn])
  | tagged _ noId tag bag =>
      exact .inr ⟨noId, _, Envelope.ofMap_eq_ok_iff.mpr ⟨tag, .inl bag⟩⟩

/-! ## Attempts that end -/

/-- Nothing nested was read: the attempt did not fail for the limit on nesting, and the credential
it decoded has none inside it. -/
structure Bare (attempt : Decoder Credential) : Prop where
  withinLimit : attempt.outcome.WithinLimit
  height_eq_zero : ∀ credential, attempt.outcome = .ok credential → credential.height = 0

/-- How a role is read out of a map: it ends there, or goes on with the nested entry. -/
inductive RoleMap (entries : Dict Value) : Prop
  | ends (attempt : Decoder Credential) (bare : Bare attempt)
      (reads : ∀ inner, roleOfMap inner entries = attempt)
      (last : ∀ roleArn nested, entries.get? "roleARN" = some (.string roleArn) →
        entries.get? "configurer" = some nested → nested = .null)
  | onward (roleArn : String) (nested : Value)
      (arn : entries.get? "roleARN" = some (.string roleArn))
      (found : entries.get? "configurer" = some nested) (present : nested ≠ .null)
      (reads : ∀ inner, roleOfMap inner entries = roleOver roleArn (inner nested))

theorem roleMap (entries : Dict Value) : RoleMap entries := by
  cases arnField : Json.field .string entries "roleARN" with
  | error failure =>
      refine .ends (.fail (failure.within assumeRoleName)) ⟨?_, ?_⟩
        (fun inner => roleOfMap_of_unnamed arnField) ?_
      · have limited := Json.withinLimit_field .string entries "roleARN" failure arnField
        exact Outcome.withinLimit_error limited
      · intro credential decoded
        cases decoded
      · intro roleArn nested arn
        rw [Json.field_string_eq_ok_iff.mpr arn] at arnField
        cases arnField
  | ok roleArn =>
      have arn := Json.field_string_eq_ok_iff.mp arnField
      cases present : present? entries "configurer" with
      | none =>
          refine .ends (pure (.assumeRole none roleArn)) ⟨Outcome.withinLimit_ok _, ?_⟩
            (fun inner => roleOfMap_of_bare arn present) ?_
          · intro credential decoded
            cases decoded
            rfl
          · intro _ nested _ found
            rcases Json.present?_eq_none_iff.mp present with absent | null
            · rw [absent] at found
              cases found
            · rw [null] at found
              exact (Option.some.inj found).symm
      | some nested =>
          obtain ⟨found, notNull⟩ := Json.present?_eq_some_iff.mp present
          exact .onward roleArn nested arn found notNull
            fun inner => roleOfMap_of_nested arn present

/-! ## The cases of a level -/

/-- The attempt ends where it was made: it did not fail for the limit on nesting, and the credential
it decoded, if any, has none inside it. -/
structure Settled (attempt : Decoder (Option Credential)) : Prop where
  withinLimit : attempt.outcome.WithinLimit
  height_eq_zero :
    ∀ credential, attempt.outcome = .ok (some credential) → credential.height = 0

theorem settled_none (notes : List Event) : Settled ⟨.ok none, notes⟩ := by
  refine ⟨Outcome.withinLimit_ok _, ?_⟩
  intro credential decoded
  cases decoded

theorem settled_fail {failure : Failure} (other : failure.cause.isNestingTooDeep = false) :
    Settled (.fail failure) := by
  refine ⟨Outcome.withinLimit_error other, ?_⟩
  intro credential decoded
  cases decoded

/-- How a role is written: as a map that is recognized by its shape, or in an envelope. -/
inductive RoleForm
  | flat
  | tagged

/-- What the credential of a level comes to, given the attempt to decode what is written there. -/
def RoleForm.carry : RoleForm → Decoder Credential → Decoder (Option Credential)
  | .flat, attempt => do return some (← attempt)
  | .tagged, attempt => Envelope.tolerate .aws attempt

/-- What a map with the name of a role is decoded to. -/
theorem decodeWithin_flatRole (arn : entries.has "roleARN" = true) :
    decodeWithin (levels + 1) (.object entries) =
      RoleForm.flat.carry (roleOfMap (decodeWithin levels) entries) :=
  decodeWithin_of_roleArn arn

/-- What a map with the tag of a role is decoded to. -/
theorem decodeWithin_taggedRole (noArn : entries.has "roleARN" = false)
    (noId : entries.has "id" = false) (tag : entries.get? "type" = some (.string assumeRoleTag))
    (bag : entries.get? "values" = some (.object values)) :
    decodeWithin (levels + 1) (.object entries) =
      RoleForm.tagged.carry (roleOfMap (decodeWithin levels) values) :=
  decodeWithin_of_roleTag noArn noId (Envelope.ofMap_eq_ok_iff.mpr ⟨tag, .inl bag⟩)

namespace RoleForm

variable {attempt : Decoder Credential}

theorem outcome_carry_eq_some_iff (form : RoleForm) {credential : Credential} :
    (form.carry attempt).outcome = .ok (some credential) ↔
      attempt.outcome = .ok credential := by
  cases form with
  | flat =>
      cases reached : attempt.outcome with
      | ok decoded =>
          rw [carry, Attempt.bind_of_ok _ reached]
          simp
      | error failure =>
          rw [carry, Attempt.bind_of_error _ reached]
          simp
  | tagged => exact Envelope.outcome_tolerate_eq_some_iff

theorem outcome_carry_of_tooDeep (form : RoleForm) {failure : Failure}
    (failed : attempt.outcome = .error failure)
    (tooDeep : failure.cause.isNestingTooDeep = true) :
    (form.carry attempt).outcome = .error failure := by
  cases form with
  | flat => rw [carry, Attempt.bind_of_error _ failed]
  | tagged => exact Envelope.outcome_tolerate_eq_error_iff.mpr ⟨failed, tooDeep⟩

theorem withinLimit_carry (form : RoleForm) (limited : attempt.outcome.WithinLimit) :
    (form.carry attempt).outcome.WithinLimit := by
  cases form with
  | flat =>
      rw [carry, Attempt.outcome_bind]
      exact limited.bind fun _ => Outcome.withinLimit_ok _
  | tagged =>
      intro failure failed
      exact limited failure (Envelope.outcome_tolerate_eq_error_iff.mp failed).1

end RoleForm

theorem Bare.settled_carry {attempt : Decoder Credential} (bare : Bare attempt)
    (form : RoleForm) : Settled (form.carry attempt) := by
  refine ⟨form.withinLimit_carry bare.withinLimit, ?_⟩
  intro credential decoded
  exact bare.height_eq_zero credential (form.outcome_carry_eq_some_iff.mp decoded)

theorem bare_keyOfMap (entries : Dict Value) : Bare (keyOfMap entries) := by
  rw [keyOfMap]
  have limited := AccessKey.withinLimit_ofMap entries
  cases reached : AccessKey.ofMap entries with
  | ok key =>
      refine ⟨Outcome.withinLimit_ok _, ?_⟩
      intro credential decoded
      cases decoded
      rfl
  | error failure =>
      rw [reached] at limited
      refine ⟨Outcome.withinLimit_error (limited failure rfl), ?_⟩
      intro credential decoded
      cases decoded

theorem bare_serviceAccount : Bare (pure .serviceAccount) := by
  refine ⟨Outcome.withinLimit_ok _, ?_⟩
  intro credential decoded
  cases decoded
  rfl

theorem bare_fail {failure : Failure} (other : failure.cause.isNestingTooDeep = false) :
    Bare (.fail failure) := by
  refine ⟨Outcome.withinLimit_error other, ?_⟩
  intro credential decoded
  cases decoded

/-- What decoding does at one level of a value, for any number of levels below it. -/
inductive Descent (value : Value) : Prop
  | settled (attempt : Decoder (Option Credential)) (ends : Settled attempt)
      (reads : ∀ levels, decodeWithin (levels + 1) value = attempt)
      (last : ∀ nested, Enters value nested → nested = .null)
  | role (form : RoleForm) (roleArn : String) (nested : Value)
      (enters : Enters value nested) (present : nested ≠ .null)
      (reads : ∀ levels, decodeWithin (levels + 1) value =
        form.carry (roleOver roleArn (decodeWithin levels nested)))

/-- The level of a map with the name of a role. -/
theorem descent_of_roleArn (arn : entries.has "roleARN" = true) : Descent (.object entries) := by
  cases roleMap entries with
  | ends attempt bare reads last =>
      refine .settled _ (bare.settled_carry .flat) ?_ ?_
      · intro levels
        rw [decodeWithin_of_roleArn arn, reads]
        rfl
      · intro nested enters
        cases enters with
        | flat found nestedFound => exact last _ _ found nestedFound
        | tagged noArn => simp [arn] at noArn
  | onward roleArn nested found nestedFound present reads =>
      refine .role .flat roleArn nested (.flat found nestedFound) present ?_
      intro levels
      rw [decodeWithin_of_roleArn arn, reads]
      rfl

/-- The level of a map that is read by its tag as the envelope of a role. -/
theorem descent_of_roleTag (noArn : entries.has "roleARN" = false)
    (noId : entries.has "id" = false)
    (read : Envelope.ofMap .aws entries = .ok ⟨assumeRoleTag, values⟩) :
    Descent (.object entries) := by
  obtain ⟨tag, bag⟩ := Envelope.ofMap_eq_ok_iff.mp read
  have decoded (levels : Nat) : decodeWithin (levels + 1) (.object entries) =
      Envelope.tolerate .aws (roleOfMap (decodeWithin levels) values) :=
    decodeWithin_of_roleTag noArn noId read
  cases roleMap values with
  | ends attempt bare reads last =>
      refine .settled _ (bare.settled_carry .tagged) ?_ ?_
      · intro levels
        rw [decoded, reads]
        rfl
      · intro nested enters
        cases enters with
        | flat arn => simp [Dict.has, arn] at noArn
        | tagged _ _ _ found arn nestedFound =>
            rcases bag with same | ⟨absent, _⟩
            · rw [same] at found
              cases found
              exact last _ _ arn nestedFound
            · simp [Json.present?, found] at absent
  | onward roleArn nested arn nestedFound present reads =>
      have found : entries.get? "values" = some (.object values) := by
        rcases bag with same | ⟨_, rfl⟩
        · exact same
        · cases arn
      refine .role .tagged roleArn nested (.tagged noArn noId tag found arn nestedFound)
        present ?_
      intro levels
      rw [decoded, reads]
      rfl

/-- The level of a map that is read by its tag, and not as the envelope of a role. -/
theorem descent_of_other_tag {tag : String} (noArn : entries.has "roleARN" = false)
    (noId : entries.has "id" = false)
    (read : Envelope.ofMap .aws entries = .ok ⟨tag, values⟩) (notRole : tag ≠ assumeRoleTag) :
    Descent (.object entries) := by
  obtain ⟨tagged, _⟩ := Envelope.ofMap_eq_ok_iff.mp read
  have decoded (levels : Nat) : decodeWithin (levels + 1) (.object entries) =
      Envelope.resolve .aws (ofTagged fun _ => pure none) ⟨tag, values⟩ := by
    rw [decodeWithin_of_type noArn noId (by simp [Dict.has, tagged]), read]
    simp [Envelope.resolve, ofTagged, notRole]
  have last : ∀ nested, Enters (.object entries) nested → nested = .null := by
    intro nested enters
    cases enters with
    | flat arn => simp [Dict.has, arn] at noArn
    | tagged _ _ found =>
        rw [tagged] at found
        cases found
        exact absurd rfl notRole
  by_cases empty : tag = ""
  · refine .settled (pure none) (settled_none _) ?_ last
    intro levels
    rw [decoded, Envelope.resolve_of_empty_tag empty]
  · refine .settled _ (Bare.settled_carry ?_ .tagged)
      (fun levels => (decoded levels).trans (Envelope.resolve_of_tag empty)) last
    by_cases key : tag = accessKeyTag
    · subst key
      rw [ofTagged_accessKey]
      exact bare_keyOfMap values
    · by_cases account : tag = serviceAccountTag
      · subst account
        rw [ofTagged_serviceAccount]
        exact bare_serviceAccount
      · rw [ofTagged_of_foreign key account notRole]
        exact bare_fail rfl

/-- The level of a map that is read by its tag. -/
theorem descent_of_type (noArn : entries.has "roleARN" = false)
    (noId : entries.has "id" = false) (tag : entries.has "type" = true) :
    Descent (.object entries) := by
  cases read : Envelope.ofMap .aws entries with
  | error failure =>
      have limited := Envelope.withinLimit_ofMap .aws entries failure read
      refine .settled _ (settled_fail limited) ?_ ?_
      · intro levels
        rw [decodeWithin_of_type noArn noId tag, read]
        rfl
      · intro nested enters
        rcases enters.reads with arn | ⟨_, values, other⟩
        · simp [noArn] at arn
        · rw [read] at other
          cases other
  | ok envelope =>
      by_cases role : envelope.tag = assumeRoleTag
      · obtain ⟨tag, values⟩ := envelope
        subst role
        exact descent_of_roleTag noArn noId read
      · exact descent_of_other_tag noArn noId read role

/-- The level of a map. -/
theorem descent_of_object (entries : Dict Value) : Descent (.object entries) := by
  cases arn : entries.has "roleARN" with
  | true => exact descent_of_roleArn arn
  | false =>
      cases id : entries.has "id" with
      | true =>
          refine .settled _ ((bare_keyOfMap entries).settled_carry .flat)
            (fun _ => decodeWithin_of_id arn id) ?_
          intro nested enters
          rcases enters.reads with named | ⟨noId, _⟩
          · simp [arn] at named
          · simp [id] at noId
      | false =>
          cases tag : entries.has "type" with
          | true => exact descent_of_type arn id tag
          | false =>
              have last : ∀ nested, Enters (.object entries) nested → nested = .null := by
                intro nested enters
                cases enters with
                | flat found => simp [Dict.has, found] at arn
                | tagged _ _ found => simp [Dict.has, found] at tag
              by_cases empty : entries = []
              · subst empty
                refine .settled _ ⟨Outcome.withinLimit_ok _, ?_⟩
                  (fun _ => decodeWithin_empty) last
                intro credential decoded
                cases decoded
                rfl
              · exact .settled _ (settled_fail rfl)
                  (fun _ => decodeWithin_of_unrecognized empty arn id tag) last

/-- Every value has one of the cases. -/
theorem descent (value : Value) : Descent value := by
  cases value with
  | null =>
      exact .settled (pure none) (settled_none _) (fun _ => decodeWithin_null)
        fun _ enters => (not_enters_null enters).elim
  | bool | number | string | array =>
      refine .settled _ (settled_fail rfl)
        (fun _ => decodeWithin_of_not_map rfl (by simp)) ?_
      intro nested enters
      cases enters
  | object entries => exact descent_of_object entries

end CloudBilling.Aws.Credential
