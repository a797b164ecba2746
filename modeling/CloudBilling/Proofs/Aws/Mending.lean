import CloudBilling.Proofs.Aws.Cleanness
import CloudBilling.Proofs.Aws.Levels

/-!
# Broken envelopes after redaction

Redaction puts a text in the place of every secret that is not empty, and null in the place of a
nested entry whose secrets it cannot locate.  Both can make an envelope decode that did not decode
before.  This module says exactly when that happens and which credential comes out of it.  No such
credential has a secret, and no level is mended but those that are read by their tag, with all
levels above them.
-/

namespace CloudBilling.Aws

open Json (Value present?)
open Aws.Credential

variable {value nested before after : Value} {envelope inner : Envelope} {levels : Nat}
variable {credential : Credential} {roleArn : String}

/-! ## What is mended -/

/-- The envelope of a role does not decode where so many levels may be entered, because the entry
nested in it does not decode there. -/
structure FailsBelow (levels : Nat) (envelope : Envelope) (roleArn : String) (nested : Value) :
    Prop where
  role : envelope.tag = assumeRoleTag
  arn : envelope.values.get? "roleARN" = some (.string roleArn)
  found : envelope.values.get? "configurer" = some nested
  present : nested ≠ .null
  failed : ∃ failure, (decodeWithin levels nested).outcome = .error failure

/-- Redaction makes a credential out of an envelope that does not decode. -/
inductive Mended : Nat → Envelope → Credential → Prop
  /-- A secret that is neither a text nor empty gives way to a text. -/
  | key {levels : Nat} {envelope : Envelope} {id : String} {secret : Value} :
      envelope.tag = accessKeyTag → envelope.values.get? "id" = some (.string id) →
      envelope.values.get? "secret" = some secret → secret.isEmpty = false →
      secret.string? = none → Mended levels envelope (.accessKey ⟨id, redacted⟩)
  /-- An entry that cannot be read gives way to null. -/
  | dropped {levels : Nat} {envelope : Envelope} {roleArn : String} {nested : Value} :
      FailsBelow levels envelope roleArn nested → Dropped nested →
      Mended levels envelope (.assumeRole none roleArn)
  /-- An entry that nests too deep at its place gives way to what it is by itself: there, more
  levels may be entered, and what is read below them as no credential does not count. -/
  | reread {levels : Nat} {envelope : Envelope} {roleArn : String} {nested : Value}
      {base : Credential} :
      FailsBelow levels envelope roleArn nested → tagged? nested = none →
      (decodeAt 0 nested).outcome = .ok (some base) → base.height < levels →
      Mended levels envelope (.assumeRole (some base.redact) roleArn)
  /-- What is mended one level further down makes this level decode. -/
  | nested {levels : Nat} {envelope inner : Envelope} {roleArn : String} {nested : Value}
      {base : Credential} :
      FailsBelow (levels + 1) envelope roleArn nested → tagged? nested = some inner →
      Mended levels inner base → Mended (levels + 1) envelope (.assumeRole (some base) roleArn)

theorem Mended.owned (mended : Mended levels envelope credential) :
    envelope.tag ∈ Provider.tags .aws := by
  have roleOwned : assumeRoleTag ∈ Provider.tags .aws := by decide
  cases mended with
  | key tag => exact tag ▸ List.mem_cons_self
  | dropped fails => exact fails.role ▸ roleOwned
  | reread fails => exact fails.role ▸ roleOwned
  | nested fails => exact fails.role ▸ roleOwned

/-! ## Roles after redaction -/

variable {inside : Value → Decoder (Option Credential)}

/-- A role whose nested entry is dropped is a role over nothing. -/
theorem roleOfMap_sanitize_of_dropped (fails : FailsBelow levels envelope roleArn nested)
    (dropped : Dropped nested) :
    roleOfMap inside (sanitize envelope).value.values = pure (.assumeRole none roleArn) := by
  refine roleOfMap_of_bare ((get?_sanitize_of_role fails.role (by decide)).trans fails.arn) ?_
  refine Json.present?_eq_none_iff.mpr (.inr ?_)
  rw [get?_configurer_sanitize fails.role, fails.found, Option.map_some, dropped.replaced_eq]

/-- A role whose nested entry is replaced by an envelope is a role over that. -/
theorem roleOfMap_sanitize_of_kept (fails : FailsBelow levels envelope roleArn nested)
    (kept : replaced nested = inner.toValue) :
    roleOfMap inside (sanitize envelope).value.values =
      roleOver roleArn (inside inner.toValue) := by
  refine roleOfMap_of_nested ((get?_sanitize_of_role fails.role (by decide)).trans fails.arn) ?_
  refine Json.present?_eq_some_iff.mpr ⟨?_, inner.toValue_ne_null⟩
  rw [get?_configurer_sanitize fails.role, fails.found, Option.map_some, kept]

/-- A named role fails only because of the entry nested in it. -/
theorem exists_failsBelow {failure : Failure} (role : envelope.tag = assumeRoleTag)
    (arn : envelope.values.get? "roleARN" = some (.string roleArn))
    (failed : (ofTagged (decodeWithin levels) envelope.tag envelope.values).outcome =
      .error failure) : ∃ nested, FailsBelow levels envelope roleArn nested := by
  rw [role, ofTagged_assumeRole] at failed
  cases present : present? envelope.values "configurer" with
  | none =>
      rw [roleOfMap_of_bare arn present] at failed
      cases failed
  | some nested =>
      obtain ⟨found, notNull⟩ := Json.present?_eq_some_iff.mp present
      rw [roleOfMap_of_nested arn present] at failed
      obtain ⟨below, failedBelow, _⟩ := outcome_roleOver_eq_error_iff.mp failed
      exact ⟨nested, role, arn, found, notNull, below, failedBelow⟩

/-- Only a named role fails for the limit on nesting. -/
theorem exists_failsBelow_of_limit {failure : Failure}
    (failed : (ofTagged (decodeWithin levels) envelope.tag envelope.values).outcome =
      .error failure) (limit : failure.cause.isNestingTooDeep = true) :
    ∃ roleArn nested, FailsBelow levels envelope roleArn nested := by
  have notLimit {attempt : Decoder Credential} (bare : Bare attempt)
      (same : attempt.outcome = .error failure) : False := by
    rw [bare.withinLimit failure same] at limit
    cases limit
  by_cases role : envelope.tag = assumeRoleTag
  · cases arnField : Json.field .string envelope.values "roleARN" with
    | ok roleArn =>
        exact ⟨roleArn, exists_failsBelow role (Json.field_string_eq_ok_iff.mp arnField) failed⟩
    | error unnamed =>
        have other := Json.withinLimit_field .string envelope.values "roleARN" unnamed arnField
        rw [role, ofTagged_assumeRole, roleOfMap_of_unnamed arnField] at failed
        have fails : Bare (.fail (unnamed.within assumeRoleName)) := bare_fail other
        exact (notLimit fails failed).elim
  · by_cases key : envelope.tag = accessKeyTag
    · rw [key, ofTagged_accessKey] at failed
      exact (notLimit (bare_keyOfMap envelope.values) failed).elim
    · by_cases account : envelope.tag = serviceAccountTag
      · rw [account, ofTagged_serviceAccount] at failed
        exact (notLimit bare_serviceAccount failed).elim
      · rw [ofTagged_of_foreign key account role] at failed
        exact (notLimit (bare_fail rfl) failed).elim

/-- The value of an envelope fails for the limit only. -/
theorem limit_of_toValue {failure : Failure}
    (failed : (decodeWithin levels envelope.toValue).outcome = .error failure) :
    failure.cause.isNestingTooDeep = true := by
  cases levels with
  | zero =>
      rw [decodeWithin_zero] at failed
      cases failed
      rfl
  | succ levels =>
      rw [decodeWithin_toValue] at failed
      exact (Envelope.outcome_resolve_eq_error_iff.mp failed).2.2

/-- After redaction a named role fails for the limit only. -/
theorem FailsBelow.limit_of_sanitize {failure : Failure}
    (fails : FailsBelow levels envelope roleArn nested)
    (failed : (roleOfMap (decodeWithin levels) (sanitize envelope).value.values).outcome =
      .error failure) : failure.cause.isNestingTooDeep = true := by
  have kept {inner : Envelope} (same : replaced nested = inner.toValue) :
      failure.cause.isNestingTooDeep = true := by
    rw [roleOfMap_sanitize_of_kept fails same] at failed
    obtain ⟨below, failedBelow, rfl⟩ := outcome_roleOver_eq_error_iff.mp failed
    have limit := limit_of_toValue failedBelow
    exact limit
  cases replacement nested with
  | dropped lost =>
      rw [roleOfMap_sanitize_of_dropped fails lost] at failed
      cases failed
  | inPlace inner _ _ same => exact kept same
  | reread credential _ _ same => exact kept same

/-! ## Exactly what is mended -/

/-- What comes of an envelope by redaction, if it did not decode, is what it is mended to. -/
def Recovers (envelope : Envelope) : Prop :=
  ∀ levels failure credential,
    (ofTagged (decodeWithin levels) envelope.tag envelope.values).outcome = .error failure →
      ((ofTagged (decodeWithin levels) envelope.tag (sanitize envelope).value.values).outcome =
        .ok credential ↔ Mended levels envelope credential)

/-- An access key that does not decode has no text for a secret, or its name is missing. -/
theorem secret_ne_string_of_failed {failure : Failure} {values : Dict Value} {id : String}
    (failed : (keyOfMap values).outcome = .error failure)
    (named : values.get? "id" = some (.string id)) (text : String) :
    values.get? "secret" ≠ some (.string text) := by
  intro found
  have read : AccessKey.ofMap values = .ok ⟨id, text⟩ :=
    AccessKey.ofMap_eq_ok_iff.mpr ⟨named, found⟩
  rw [outcome_keyOfMap_eq_ok_iff.mpr ⟨_, read, rfl⟩] at failed
  cases failed

theorem recovers_of_key (key : envelope.tag = accessKeyTag) : Recovers envelope := by
  intro levels failure credential failed
  have notRole : envelope.tag ≠ assumeRoleTag := key ▸ assumeRoleTag_ne_accessKeyTag.symm
  rw [key, ofTagged_accessKey] at failed
  rw [sanitize_of_accessKey key, Logged.value_pure, key, ofTagged_accessKey,
    outcome_keyOfMap_eq_ok_iff]
  constructor
  · rintro ⟨⟨id, text⟩, read, rfl⟩
    obtain ⟨named, changed⟩ := AccessKey.ofMap_eq_ok_iff.mp read
    rw [Envelope.redactEntry, Dict.get?_update, if_neg (by decide)] at named
    rw [Envelope.redactEntry, Dict.get?_update, if_pos rfl, Option.map_eq_some_iff] at changed
    obtain ⟨secret, found, same⟩ := changed
    have notText := secret_ne_string_of_failed failed named
    rw [found] at notText
    rw [Envelope.redactValue] at same
    split at same
    · exact absurd (congrArg some same) (notText text)
    · next content =>
        cases same
        refine .key key named found (by simpa using content) ?_
        cases secret with
        | string text => exact absurd rfl (notText text)
        | null | bool | number | array | object => rfl
  · intro mended
    cases mended with
    | @key _ _ id secret _ named found content notText =>
        refine ⟨⟨id, redacted⟩, AccessKey.ofMap_eq_ok_iff.mpr ⟨?_, ?_⟩, rfl⟩
        · rw [Envelope.redactEntry, Dict.get?_update, if_neg (by decide)]
          exact named
        · rw [Envelope.redactEntry, Dict.get?_update, if_pos rfl, found, Option.map_some,
            Envelope.redactValue, content]
          rfl
    | dropped fails => exact absurd fails.role notRole
    | reread fails => exact absurd fails.role notRole
    | nested fails => exact absurd fails.role notRole

theorem FailsBelow.unique {otherArn : String} {other : Value} {more : Nat}
    (fails : FailsBelow levels envelope roleArn nested)
    (failsOther : FailsBelow more envelope otherArn other) :
    otherArn = roleArn ∧ other = nested := by
  have sameArn := fails.arn.symm.trans failsOther.arn
  have sameEntry := fails.found.symm.trans failsOther.found
  simp only [Option.some.injEq, Value.string.injEq] at sameArn sameEntry
  exact ⟨sameArn.symm, sameEntry.symm⟩

/-- A role over an entry that is dropped. -/
theorem mended_iff_of_dropped (fails : FailsBelow levels envelope roleArn nested)
    (lost : Dropped nested) :
    Mended levels envelope credential ↔ credential = .assumeRole none roleArn := by
  constructor
  · intro mended
    cases mended with
    | key key => exact absurd (fails.role.symm.trans key) assumeRoleTag_ne_accessKeyTag
    | dropped others =>
        obtain ⟨rfl, _⟩ := fails.unique others
        rfl
    | reread others untagged decoded =>
        obtain ⟨_, rfl⟩ := fails.unique others
        rw [Dropped, untagged] at lost
        exact absurd decoded (lost _)
    | nested others read mended =>
        obtain ⟨_, rfl⟩ := fails.unique others
        rw [Dropped, read] at lost
        exact absurd mended.owned lost
  · rintro rfl
    exact .dropped fails lost

/-- A role over an entry that is read again. -/
theorem mended_iff_of_reread {base : Credential}
    (fails : FailsBelow levels envelope roleArn nested) (untagged : tagged? nested = none)
    (decoded : (decodeAt 0 nested).outcome = .ok (some base)) :
    Mended levels envelope credential ↔
      base.height < levels ∧ credential = .assumeRole (some base.redact) roleArn := by
  constructor
  · intro mended
    cases mended with
    | key key => exact absurd (fails.role.symm.trans key) assumeRoleTag_ne_accessKeyTag
    | dropped others lost =>
        obtain ⟨_, rfl⟩ := fails.unique others
        rw [Dropped, untagged] at lost
        exact absurd decoded (lost _)
    | reread others _ decodedAgain fits =>
        obtain ⟨rfl, rfl⟩ := fails.unique others
        rw [decoded] at decodedAgain
        cases decodedAgain
        exact ⟨fits, rfl⟩
    | nested others read =>
        obtain ⟨_, rfl⟩ := fails.unique others
        rw [untagged] at read
        cases read
  · rintro ⟨fits, rfl⟩
    exact .reread fails untagged decoded fits

/-- A role over an envelope that stays in its place. -/
theorem mended_iff_of_inPlace (fails : FailsBelow levels envelope roleArn nested)
    (read : tagged? nested = some inner) (owned : inner.tag ∈ Provider.tags .aws) :
    Mended levels envelope credential ↔
      ∃ rest base, levels = rest + 1 ∧ Mended rest inner base ∧
        credential = .assumeRole (some base) roleArn := by
  constructor
  · intro mended
    cases mended with
    | key key => exact absurd (fails.role.symm.trans key) assumeRoleTag_ne_accessKeyTag
    | dropped others lost =>
        obtain ⟨_, rfl⟩ := fails.unique others
        rw [Dropped, read] at lost
        exact absurd owned lost
    | reread others untagged =>
        obtain ⟨_, rfl⟩ := fails.unique others
        rw [untagged] at read
        cases read
    | nested others readAgain mended =>
        obtain ⟨rfl, rfl⟩ := fails.unique others
        rw [read] at readAgain
        cases readAgain
        exact ⟨_, _, rfl, mended, rfl⟩
  · rintro ⟨rest, base, rfl, mended, rfl⟩
    exact .nested fails read mended

/-- An envelope that fails for the limit at its place fails there again after redaction, unless it
is mended. -/
theorem outcome_inPlace_iff {failure : Failure} {base : Option Credential}
    (recovers : Recovers inner) (read : tagged? nested = some inner)
    (failed : (decodeWithin (levels + 1) nested).outcome = .error failure) :
    (decodeWithin (levels + 1) (sanitize inner).value.toValue).outcome = .ok base ↔
      ∃ credential, base = some credential ∧ Mended levels inner credential := by
  rw [decodeWithin_of_tagged read] at failed
  obtain ⟨nonempty, failedInside, limit⟩ := Envelope.outcome_resolve_eq_error_iff.mp failed
  rw [decodeWithin_toValue]
  cases base with
  | some credential =>
      rw [Envelope.outcome_resolve_eq_some_iff, tag_sanitize,
        recovers levels failure credential failedInside]
      simp [nonempty]
  | none =>
      rw [Envelope.outcome_resolve_eq_none_iff, tag_sanitize]
      constructor
      · rintro (empty | ⟨other, failedAfter, shallow⟩)
        · exact absurd empty nonempty
        · obtain ⟨roleArn, entry, fails⟩ := exists_failsBelow_of_limit failedInside limit
          rw [fails.role, ofTagged_assumeRole] at failedAfter
          rw [fails.limit_of_sanitize failedAfter] at shallow
          cases shallow
      · rintro ⟨credential, impossible, _⟩
        cases impossible

/-- A role that fails because of what is nested in it recovers if that does. -/
theorem recovers_of_fails (fails : FailsBelow levels envelope roleArn nested)
    (inside : ∀ inner, tagged? nested = some inner → Recovers inner) :
    (roleOfMap (decodeWithin levels) (sanitize envelope).value.values).outcome = .ok credential ↔
      Mended levels envelope credential := by
  cases replacement nested with
  | dropped lost =>
      rw [roleOfMap_sanitize_of_dropped fails lost, mended_iff_of_dropped fails lost]
      simp [eq_comm]
  | reread base untagged decoded same =>
      rw [roleOfMap_sanitize_of_kept fails same, outcome_roleOver_eq_ok_iff,
        mended_iff_of_reread fails untagged decoded, decodeWithin_toEnvelope, height_redact]
      by_cases fits : base.height < levels <;> simp [fits]
  | inPlace inner read owned same =>
      rw [roleOfMap_sanitize_of_kept fails same, outcome_roleOver_eq_ok_iff,
        mended_iff_of_inPlace fails read owned]
      cases levels with
      | zero =>
          rw [decodeWithin_zero]
          simp
      | succ levels =>
          obtain ⟨failure, failed⟩ := fails.failed
          simp only [outcome_inPlace_iff (inside inner read) read failed]
          constructor
          · rintro ⟨_, ⟨base, rfl, mended⟩, rfl⟩
            exact ⟨levels, base, rfl, mended, rfl⟩
          · rintro ⟨_, base, sameLevels, mended, rfl⟩
            cases sameLevels
            exact ⟨some base, ⟨base, rfl, mended⟩, rfl⟩

/-- A role recovers if what is nested in it does. -/
theorem recovers_of_role (role : envelope.tag = assumeRoleTag)
    (inside : ∀ nested inner, envelope.values.get? "configurer" = some nested →
      tagged? nested = some inner → Recovers inner) : Recovers envelope := by
  intro levels failure credential failed
  by_cases named : ∃ roleArn, envelope.values.get? "roleARN" = some (.string roleArn)
  · obtain ⟨roleArn, arn⟩ := named
    obtain ⟨nested, fails⟩ := exists_failsBelow role arn failed
    rw [role, ofTagged_assumeRole]
    exact recovers_of_fails fails fun inner => inside nested inner fails.found
  · constructor
    · intro decoded
      rw [role, ofTagged_assumeRole] at decoded
      obtain ⟨roleArn, arn, _⟩ := outcome_roleOfMap_eq_ok_iff.mp decoded
      rw [get?_sanitize_of_role role (by decide)] at arn
      exact absurd ⟨roleArn, arn⟩ named
    · intro mended
      cases mended with
      | key key => exact absurd (role.symm.trans key) assumeRoleTag_ne_accessKeyTag
      | dropped fails => exact absurd ⟨_, fails.arn⟩ named
      | reread fails => exact absurd ⟨_, fails.arn⟩ named
      | nested fails => exact absurd ⟨_, fails.arn⟩ named

theorem recovers (envelope : Envelope) : Recovers envelope := by
  induction envelope using nested_induction with
  | step envelope ih =>
      by_cases role : envelope.tag = assumeRoleTag
      · refine recovers_of_role role ?_
        intro nested inner found read
        obtain ⟨entries, rfl, _, outcome⟩ := exists_of_tagged? read
        exact ih entries inner found outcome
      · by_cases key : envelope.tag = accessKeyTag
        · exact recovers_of_key key
        · intro levels failure credential failed
          rw [sanitize_of_other key role, Logged.value_pure, failed]
          constructor
          · intro impossible
            cases impossible
          · intro mended
            cases mended with
            | key tag => exact absurd tag key
            | dropped fails => exact absurd fails.role role
            | reread fails => exact absurd fails.role role
            | nested fails => exact absurd fails.role role

/-! ## What was read as no credential -/

/-- What decodes to no credential at its place decodes to one after redaction, if it is mended. -/
theorem outcome_replaced_iff_of_none
    (absent : (decodeWithin (levels + 1) nested).outcome = .ok none) :
    (decodeWithin (levels + 1) (replaced nested)).outcome = .ok (some credential) ↔
      ∃ inner, tagged? nested = some inner ∧ Mended levels inner credential := by
  cases read : tagged? nested with
  | none =>
      rw [eq_null_of_untagged read absent, replaced_null, decodeWithin_null]
      simp
  | some inner =>
      by_cases owned : inner.tag ∈ Provider.tags .aws
      · have nonempty := ne_empty_of_owned owned
        rw [decodeWithin_of_tagged read, Envelope.outcome_resolve_eq_none_iff] at absent
        rcases absent with empty | ⟨failure, failed, _⟩
        · exact absurd empty nonempty
        · rw [replaced_of_owned read owned, decodeWithin_toValue,
            Envelope.outcome_resolve_eq_some_iff, tag_sanitize,
            recovers inner levels failure credential failed]
          simp [nonempty]
      · rw [replaced_of_foreign read owned, decodeWithin_null]
        constructor
        · intro impossible
          cases impossible
        · rintro ⟨_, same, mended⟩
          cases same
          exact absurd mended.owned owned

/-- An envelope that opens to nothing opens to a credential after redaction, if it is mended. -/
theorem value_ofEnvelope_sanitize_iff_of_none
    (closed : (CloudBilling.Credential.ofEnvelope .aws envelope).value = none) :
    (CloudBilling.Credential.ofEnvelope .aws (sanitize envelope).value).value = some credential ↔
      Mended maxDepth envelope credential := by
  rw [ofEnvelope_eq, Envelope.value_open?_eq_some_iff, tag_sanitize]
  by_cases empty : envelope.tag = ""
  · constructor
    · rintro ⟨nonempty, _⟩
      exact absurd empty nonempty
    · intro mended
      exact absurd empty (ne_empty_of_owned mended.owned)
  · cases reached : (ofTagged (decodeWithin maxDepth) envelope.tag envelope.values).outcome with
    | ok found =>
        rw [ofEnvelope_eq, Envelope.value_open?_eq_some_iff.mpr ⟨empty, reached⟩] at closed
        cases closed
    | error failure =>
        rw [recovers envelope maxDepth failure credential reached]
        simp [empty]

/-- Where two numbers of levels are enough to decode a value, it decodes to the same. -/
theorem outcome_decodeWithin_unique {more : Nat} {found other : Option Credential}
    (decoded : (decodeWithin levels value).outcome = .ok found)
    (decodedOther : (decodeWithin more value).outcome = .ok other) : found = other := by
  rcases Nat.le_total levels more with fewer | fewer
  · rw [decodeWithin_of_le (not_tooDeep_of_decodeWithin decoded) fewer, decoded] at decodedOther
    cases decodedOther
    rfl
  · rw [decodeWithin_of_le (not_tooDeep_of_decodeWithin decodedOther) fewer, decodedOther]
      at decoded
    cases decoded
    rfl

/-- What was read as no credential, and stands where decoding a level above by its shape left it, is
not read as one after redaction. -/
theorem ReadsAs.eq_none_of_absent {more : Nat} {found : Option Credential}
    (reads : ReadsAs more value found)
    (absent : (decodeWithin levels value).outcome = .ok none) : found = none := by
  rcases reads with ⟨_, none⟩ | decoded
  · exact none
  · exact outcome_decodeWithin_unique decoded absent

/-- At every level, what decodes to no credential decodes to one after redaction, if every level
above is read by its tag and it is itself mended. -/
theorem outcome_down_sanitize_iff_of_none {steps : Nat}
    (reached : down nested? steps envelope.toValue = some before)
    (reachedAfter : down nested? steps (sanitize envelope).value.toValue = some after)
    (absent : (decodeWithin (levels + 1) before).outcome = .ok none) :
    (decodeWithin (levels + 1) after).outcome = .ok (some credential) ↔
      down nestedByTag? steps envelope.toValue = some before ∧
        ∃ inner, tagged? before = some inner ∧ Mended levels inner credential := by
  by_cases owned : envelope.tag ∈ Provider.tags .aws
  · rw [← replaced_of_owned (tagged?_toValue envelope) owned] at reachedAfter
    rcases down_replaced reached reachedAfter with
      ⟨byTag, rfl⟩ | ⟨untagged, more, found, _, reads, rfl⟩
    · rw [byTag, outcome_replaced_iff_of_none absent]
      simp
    · rw [reads.eq_none_of_absent absent, untagged, Option.map_none, nestedValue, decodeWithin_null]
      simp
  · cases steps with
    | zero =>
        cases reached
        cases reachedAfter
        rw [sanitize_of_foreign owned, Logged.value_pure, absent]
        constructor
        · intro impossible
          cases impossible
        · rintro ⟨_, inner, read, mended⟩
          rw [tagged?_toValue] at read
          cases read
          exact absurd mended.owned owned
    | succ steps =>
        have role := role_of_down_toValue reached
        exact absurd (role ▸ by decide) owned

/-! ## The secrets of what is mended -/

/-- An access key in a redacted credential has an empty secret, or the word that stands in for one.
-/
theorem secret_of_redact : (credential : Credential) →
    ∀ key ∈ credential.redact.accessKeys, key.secret = "" ∨ key.secret = redacted
  | .accessKey base, key, found => by
      rw [redact, accessKeys, List.mem_singleton] at found
      rw [found]
      by_cases empty : base.secret = ""
      · exact .inl (if_pos empty)
      · exact .inr (if_neg empty)
  | .serviceAccount, _, found => nomatch found
  | .assumeRole none _, _, found => nomatch found
  | .assumeRole (some base) _, key, found => secret_of_redact base key found

/-- An access key in what is mended has an empty secret, or the word that stands in for one. -/
theorem Mended.secret (mended : Mended levels envelope credential) :
    ∀ key ∈ credential.accessKeys, key.secret = "" ∨ key.secret = redacted := by
  induction mended with
  | key =>
      intro key found
      rw [accessKeys, List.mem_singleton] at found
      exact .inr (found ▸ rfl)
  | dropped =>
      intro key found
      cases found
  | nested _ _ _ ih => exact ih
  | @reread _ _ _ _ base => exact secret_of_redact base

/-- Redaction makes a credential of what decodes to none only as far as it mends it.  An envelope
that opens to nothing opens afterwards to just what it is mended to.  An entry at any level that
decodes to no credential does so afterwards too, unless every level above it is read by its tag and
the entry is an envelope that is mended.  In what is mended there is no secret. -/
theorem sanitize_mends_exactly (envelope : Envelope) :
    ((CloudBilling.Credential.ofEnvelope .aws envelope).value = none →
      ∀ credential,
        (CloudBilling.Credential.ofEnvelope .aws (sanitize envelope).value).value =
            some credential ↔
          Mended maxDepth envelope credential) ∧
    (∀ (steps : Nat) (before after : Value),
      down nested? steps envelope.toValue = some before →
      down nested? steps (sanitize envelope).value.toValue = some after →
      ∀ depth : UInt64, (decodeAt depth before).outcome = .ok none →
        ∀ credential, (decodeAt depth after).outcome = .ok (some credential) ↔
          down nestedByTag? steps envelope.toValue = some before ∧
            ∃ inner, tagged? before = some inner ∧
              Mended (maxDepth - depth.toNat) inner credential) ∧
    ∀ levels credential, Mended levels envelope credential →
      ∀ key ∈ credential.accessKeys, key.secret = "" ∨ key.secret = redacted := by
  refine ⟨?_, ?_, ?_⟩
  · intro closed credential
    exact value_ofEnvelope_sanitize_iff_of_none closed
  · intro steps before after reached reachedAfter depth absent credential
    have within : depth.toNat ≤ maxDepth := by
      refine Nat.le_of_not_lt fun beyond => ?_
      rw [decodeAt, levelsAt_of_lt beyond, decodeWithin_zero] at absent
      cases absent
    rw [decodeAt, levelsAt_of_le within] at absent ⊢
    exact outcome_down_sanitize_iff_of_none reached reachedAfter absent
  · intro levels credential mended
    exact mended.secret

/-- A role over nothing in place of a role over a text, and inside a role that decodes already. -/
theorem sanitize_mends_exactly_dropped_text :
    let inner : Envelope :=
      ⟨assumeRoleTag, [("configurer", .string "text"), ("roleARN", .string "inner")]⟩
    let envelope : Envelope :=
      ⟨assumeRoleTag, [("configurer", inner.toValue), ("roleARN", .string "outer")]⟩
    let mended : Credential := .assumeRole none "inner"
    ((CloudBilling.Credential.ofEnvelope .aws inner).value = none ∧
      (CloudBilling.Credential.ofEnvelope .aws (sanitize inner).value).value = some mended) ∧
    (down nested? 1 envelope.toValue = some inner.toValue ∧
      down nested? 1 (sanitize envelope).value.toValue = some (sanitize inner).value.toValue ∧
      (decodeAt 1 inner.toValue).outcome = .ok none ∧
      (decodeAt 1 (sanitize inner).value.toValue).outcome = .ok (some mended)) ∧
    Mended maxDepth inner mended ∧
      ∀ key ∈ mended.accessKeys, key.secret = "" ∨ key.secret = redacted := by
  intro inner envelope mended
  have dropped : ∀ levels, 0 < levels → Mended levels inner mended := by
    rintro (_ | levels) positive
    · cases positive
    · exact .dropped ⟨rfl, rfl, rfl, by simp, _, rfl⟩ fun _ impossible => nomatch impossible
  have closed : (CloudBilling.Credential.ofEnvelope .aws inner).value = none := rfl
  have reached : down nested? 1 envelope.toValue = some inner.toValue := rfl
  have absent : (decodeAt 1 inner.toValue).outcome = .ok none := rfl
  have reachedAfter : down nested? 1 (sanitize envelope).value.toValue =
      some (sanitize inner).value.toValue := by
    rw [sanitize_of_envelope rfl rfl (by decide)]
    rfl
  have top := ((sanitize_mends_exactly inner).1 closed mended).mpr (dropped maxDepth (by decide))
  have below :=
    ((sanitize_mends_exactly envelope).2.1 1 _ _ reached reachedAfter 1 absent mended).mpr
      ⟨rfl, inner, tagged?_toValue inner, dropped _ (by decide)⟩
  exact ⟨⟨closed, top⟩, ⟨reached, reachedAfter, absent, below⟩, dropped maxDepth (by decide),
    (sanitize_mends_exactly inner).2.2 maxDepth mended (dropped maxDepth (by decide))⟩

/-- An access key whose secret is a number opens to nothing, and redacted it opens to an access key.
Nested in a role, it is read as no credential before and as one after. -/
theorem sanitize_mends_broken_secret :
    let key : Envelope :=
      ⟨accessKeyTag, [("id", .string "AKIA"), ("secret", .number (.integer 5))]⟩
    let role : Envelope :=
      ⟨assumeRoleTag, [("configurer", key.toValue), ("roleARN", .string "arn")]⟩
    let mended : Credential := .accessKey ⟨"AKIA", redacted⟩
    ((CloudBilling.Credential.ofEnvelope .aws key).value = none ∧
      (CloudBilling.Credential.ofEnvelope .aws (sanitize key).value).value = some mended) ∧
    ((CloudBilling.Credential.ofEnvelope .aws role).value = some (.assumeRole none "arn") ∧
      (CloudBilling.Credential.ofEnvelope .aws (sanitize role).value).value =
        some (.assumeRole (some mended) "arn")) := by
  intro key role mended
  refine ⟨⟨rfl, ?_⟩, rfl, ?_⟩
  · rw [sanitize_of_accessKey rfl]
    rfl
  · rw [sanitize_of_envelope rfl rfl (by decide), sanitize_of_accessKey rfl]
    rfl

end CloudBilling.Aws
