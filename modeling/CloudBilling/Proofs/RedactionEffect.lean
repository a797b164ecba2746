import CloudBilling.Proofs.ForeignTags
import CloudBilling.Proofs.Warnings

/-!
# What redaction does to an envelope

Redaction of an envelope with one of the provider's tags keeps the tag and the names of the values.
It replaces the secrets of the tag, each of them if there is something in it, and the credential
nested in a role.  A nested entry in which no secret can be located becomes null, with a warning; as
an envelope that is redacted in place may hold another one, the warnings of a redaction are those of
all its levels.
-/

namespace CloudBilling

open Json (Value present?)

/-! ## Values with content -/

/-- There is something in a value: it is a flag, a number, or a text, an array or a map that is not
empty. -/
inductive Json.Value.HasContent : Value → Prop
  | bool (flag : Bool) : HasContent (.bool flag)
  | number (number : Json.Number) : HasContent (.number number)
  | string {text : String} : text ≠ "" → HasContent (.string text)
  | array {elements : List Value} : elements ≠ [] → HasContent (.array elements)
  | object {entries : Dict Value} : entries ≠ [] → HasContent (.object entries)

theorem Json.Value.hasContent_iff {value : Value} : value.HasContent ↔ value.isEmpty = false := by
  constructor
  · rintro (_ | _ | filled | filled | filled) <;> simp_all [isEmpty]
  · intro filled
    cases value with
    | null => cases filled
    | bool flag => exact .bool flag
    | number number => exact .number number
    | string text => exact .string (by simpa [isEmpty] using filled)
    | array elements => exact .array (by simpa [isEmpty] using filled)
    | object entries => exact .object (by simpa [isEmpty] using filled)

theorem Envelope.redactValue_eq_redacted_iff {value : Value} :
    redactValue value = .string redacted ↔ value.HasContent := by
  rw [Json.Value.hasContent_iff, redactValue]
  cases empty : value.isEmpty with
  | false => simp
  | true =>
      rw [if_pos rfl]
      refine iff_of_false ?_ Bool.noConfusion
      rintro rfl
      cases empty

theorem Envelope.redactValue_of_hollow {value : Value} (hollow : ¬value.HasContent) :
    redactValue value = value := by
  rw [Json.Value.hasContent_iff, Bool.not_eq_false] at hollow
  rw [redactValue, if_pos hollow]

/-! ## Nested entries in which no secret can be located -/

namespace Aws

open Aws.Credential

variable {nested : Value} {envelope inner : Envelope} {entries : Dict Value}

/-- No secret can be located in an entry that is nested in a role: it is something other than a map,
it is read by its tag and is no envelope or has a tag of no credential, or it is read by its shape
and is no credential. -/
inductive Unlocatable : Value → Prop
  | notMap {nested : Value} (notMap : nested.object? = none) (notNull : nested ≠ .null) :
      Unlocatable nested
  | malformed {entries : Dict Value} {failure : Failure}
      (byTag : Envelope.isReadByTag .aws entries = true)
      (malformed : Envelope.ofMap .aws entries = .error failure) : Unlocatable (.object entries)
  | foreign {entries : Dict Value} {inner : Envelope}
      (byTag : Envelope.isReadByTag .aws entries = true)
      (read : Envelope.ofMap .aws entries = .ok inner)
      (foreign : inner.tag ∉ Provider.tags .aws) : Unlocatable (.object entries)
  | undecoded {entries : Dict Value} (byShape : Envelope.isReadByTag .aws entries = false)
      (undecoded : ∀ credential,
        (decodeAt 0 (.object entries)).outcome ≠ .ok (some credential)) :
      Unlocatable (.object entries)

theorem not_unlocatable_null : ¬Unlocatable .null := by
  rintro ⟨⟩
  contradiction

theorem value_sanitizeByShape (nested : Value) :
    (sanitizeByShape nested).value =
      match (decodeAt 0 nested).outcome with
      | .ok (some credential) => some credential.redact.toEnvelope.toValue
      | _ => none := rfl

theorem Unlocatable.cleanNested_eq (unlocatable : Unlocatable nested) :
    (cleanNested nested).value = none := by
  cases unlocatable with
  | notMap notMap _ => rw [cleanNested_of_not_map notMap, Logged.value_pure]
  | malformed byTag malformed => rw [cleanNested_of_malformed byTag malformed, Logged.value_pure]
  | foreign byTag read foreign => rw [cleanNested_of_foreign byTag read foreign, Logged.value_pure]
  | undecoded byShape undecoded =>
      rw [cleanNested_of_shape byShape, value_sanitizeByShape]
      split
      · next credential decoded => exact absurd decoded (undecoded credential)
      · rfl

/-- What is left of an entry in which secrets can be located is an envelope. -/
theorem unlocatable_or_envelope (notNull : nested ≠ .null) :
    Unlocatable nested ∨ ∃ inner : Envelope, (cleanNested nested).value = some inner.toValue := by
  cases nested with
  | null => exact absurd rfl notNull
  | bool | number | string | array => exact .inl (.notMap rfl notNull)
  | object entries =>
      cases byTag : Envelope.isReadByTag .aws entries with
      | false =>
          rw [cleanNested_of_shape byTag, value_sanitizeByShape]
          rcases decoded : (decodeAt 0 (.object entries)).outcome with failure | _ | credential
          · exact .inl (.undecoded byTag (by simp [decoded]))
          · exact .inl (.undecoded byTag (by simp [decoded]))
          · exact .inr ⟨_, rfl⟩
      | true =>
          cases read : Envelope.ofMap .aws entries with
          | error failure => exact .inl (.malformed byTag read)
          | ok inner =>
              by_cases owned : inner.tag ∈ Provider.tags .aws
              · rw [cleanNested_of_owned byTag read owned]
                exact .inr ⟨_, rfl⟩
              · exact .inl (.foreign byTag read owned)

/-- Redaction leaves null of a nested entry exactly if no secret can be located in it, or if it was
null. -/
theorem replaced_eq_null_iff : replaced nested = .null ↔ nested = .null ∨ Unlocatable nested := by
  by_cases null : nested = .null
  · simp [null, replaced_null]
  · simp only [null, false_or]
    rcases unlocatable_or_envelope null with unlocatable | ⟨inner, kept⟩
    · rw [replaced, unlocatable.cleanNested_eq]
      simpa using unlocatable
    · rw [replaced, kept]
      refine iff_of_false inner.toValue_ne_null fun unlocatable => ?_
      cases kept.symm.trans unlocatable.cleanNested_eq

/-! ## Warnings -/

/-- The warning about the entry of a role. -/
def lossWarning : Event :=
  ⟨.warn, .envelope, Envelope.dropMessage .aws "configurer"⟩

/-- What is warned of at the levels below an entry: an envelope is redacted in place. -/
def warningsBelow (nested : Value) : List Event :=
  match tagged? nested with
  | some inner => warnings (sanitize inner).notes
  | none => []

theorem warningsBelow_of_tagged (read : tagged? nested = some inner) :
    warningsBelow nested = warnings (sanitize inner).notes := by
  rw [warningsBelow, read]

theorem warningsBelow_of_untagged (untagged : tagged? nested = none) :
    warningsBelow nested = [] := by
  rw [warningsBelow, untagged]

theorem tagged?_of_not_map (notMap : nested.object? = none) : tagged? nested = none := by
  cases nested with
  | object entries => cases notMap
  | null | bool | number | string | array => rfl

theorem tagged?_of_shape (byShape : Envelope.isReadByTag .aws entries = false) :
    tagged? (.object entries) = none := by
  rw [tagged?, byShape, if_neg Bool.false_ne_true]

theorem tagged?_of_malformed {failure : Failure}
    (byTag : Envelope.isReadByTag .aws entries = true)
    (malformed : Envelope.ofMap .aws entries = .error failure) :
    tagged? (.object entries) = none := by
  rw [tagged?, if_pos byTag, malformed]
  rfl

theorem warningsBelow_of_foreign (read : tagged? nested = some inner)
    (foreign : inner.tag ∉ Provider.tags .aws) : warningsBelow nested = [] := by
  rw [warningsBelow_of_tagged read, sanitize_of_foreign foreign]
  rfl

/-- While an entry is redacted, only levels below it are warned of. -/
theorem warnings_cleanNested (nested : Value) :
    warnings (cleanNested nested).notes = warningsBelow nested := by
  cases nested with
  | null | bool | number | string | array => rfl
  | object entries =>
      cases byTag : Envelope.isReadByTag .aws entries with
      | false =>
          rw [cleanNested_of_shape byTag, warningsBelow_of_untagged (tagged?_of_shape byTag),
            sanitizeByShape, Logged.notes_bind, warnings_append]
          have unwarned : warnings (decodeAt 0 (.object entries)).notes = [] :=
            unwarned_decodeWithin _ _
          simpa [Attempt.settle] using unwarned
      | true =>
          cases read : Envelope.ofMap .aws entries with
          | error failure =>
              rw [cleanNested_of_malformed byTag read,
                warningsBelow_of_untagged (tagged?_of_malformed byTag read)]
              rfl
          | ok inner =>
              have tagged := tagged?_of_ofMap byTag read
              by_cases owned : inner.tag ∈ Provider.tags .aws
              · rw [cleanNested_of_owned byTag read owned, Logged.notes_map,
                  warningsBelow_of_tagged tagged]
              · rw [cleanNested_of_foreign byTag read owned,
                  warningsBelow_of_foreign tagged owned]
                rfl

theorem Unlocatable.warningsBelow_eq (unlocatable : Unlocatable nested) :
    warningsBelow nested = [] := by
  cases unlocatable with
  | notMap notMap _ => exact warningsBelow_of_untagged (tagged?_of_not_map notMap)
  | malformed byTag malformed =>
      exact warningsBelow_of_untagged (tagged?_of_malformed byTag malformed)
  | foreign byTag read foreign =>
      exact warningsBelow_of_foreign (tagged?_of_ofMap byTag read) foreign
  | undecoded byShape _ => exact warningsBelow_of_untagged (tagged?_of_shape byShape)

theorem warnings_sanitize_of_nested (role : envelope.tag = assumeRoleTag)
    (found : envelope.values.get? "configurer" = some nested) (notNull : nested ≠ .null) :
    warnings (sanitize envelope).notes =
      warningsBelow nested ++
        warnings (sanitize.putNested envelope (cleanNested nested).value).notes := by
  rw [sanitize_of_nested role found notNull, Logged.notes_bind, warnings_append,
    warnings_cleanNested]

/-- An entry in which no secret can be located is warned of once. -/
theorem warnings_of_unlocatable (role : envelope.tag = assumeRoleTag)
    (found : envelope.values.get? "configurer" = some nested) (unlocatable : Unlocatable nested) :
    warnings (sanitize envelope).notes = [lossWarning] := by
  have notNull : nested ≠ .null := by
    rintro rfl
    exact not_unlocatable_null unlocatable
  rw [warnings_sanitize_of_nested role found notNull, unlocatable.warningsBelow_eq,
    unlocatable.cleanNested_eq]
  rfl

/-- Of any other entry nothing is warned, but perhaps of what is nested in it. -/
theorem warnings_of_locatable (role : envelope.tag = assumeRoleTag)
    (found : envelope.values.get? "configurer" = some nested) (locatable : ¬Unlocatable nested) :
    warnings (sanitize envelope).notes = warningsBelow nested := by
  by_cases null : nested = .null
  · have absent : present? envelope.values "configurer" = none :=
      Json.present?_eq_none_iff.mpr (.inr (null ▸ found))
    rw [sanitize_of_bare_role role absent, null]
    rfl
  · obtain ⟨inner, kept⟩ := (unlocatable_or_envelope null).resolve_left locatable
    rw [warnings_sanitize_of_nested role found null, kept, putNested_some]
    exact List.append_nil _

/-- Some level of an envelope holds an entry in which no secret can be located. -/
inductive Loses : Envelope → Prop
  | here {envelope : Envelope} {nested : Value} (role : envelope.tag = assumeRoleTag)
      (found : envelope.values.get? "configurer" = some nested)
      (unlocatable : Unlocatable nested) : Loses envelope
  | deeper {envelope inner : Envelope} {nested : Value} (role : envelope.tag = assumeRoleTag)
      (found : envelope.values.get? "configurer" = some nested)
      (read : tagged? nested = some inner) (loses : Loses inner) : Loses envelope

/-- A redaction in which something is lost warns of it once, and of nothing else. -/
theorem Loses.warnings_eq (loses : Loses envelope) :
    warnings (sanitize envelope).notes = [lossWarning] := by
  induction loses with
  | here role found unlocatable => exact warnings_of_unlocatable role found unlocatable
  | @deeper envelope inner nested role found read _ ih =>
      have below : warningsBelow nested = [lossWarning] := (warningsBelow_of_tagged read).trans ih
      have locatable : ¬Unlocatable nested := by
        intro unlocatable
        rw [unlocatable.warningsBelow_eq] at below
        cases below
      rw [warnings_of_locatable role found locatable, below]

theorem notes_sanitize_of_not_role (notRole : envelope.tag ≠ assumeRoleTag) :
    (sanitize envelope).notes = [] := by
  by_cases key : envelope.tag = accessKeyTag
  · exact congrArg Logged.notes (sanitize_of_accessKey key)
  · exact congrArg Logged.notes (sanitize_of_other key notRole)

/-- A redaction in which nothing is lost at any level does not warn. -/
theorem warnings_of_not_loses (envelope : Envelope) (keeps : ¬Loses envelope) :
    warnings (sanitize envelope).notes = [] := by
  induction envelope using nested_induction with
  | step envelope ih =>
      by_cases role : envelope.tag = assumeRoleTag
      · cases found : envelope.values.get? "configurer" with
        | none =>
            have absent := Json.present?_eq_none_iff.mpr (.inl found)
            exact congrArg (warnings ·.notes) (sanitize_of_bare_role role absent)
        | some nested =>
            have locatable : ¬Unlocatable nested := fun lost => keeps (.here role found lost)
            rw [warnings_of_locatable role found locatable]
            cases read : tagged? nested with
            | none => exact warningsBelow_of_untagged read
            | some inner =>
                have innerKeeps : ¬Loses inner := fun loses =>
                  keeps (.deeper role found read loses)
                rw [warningsBelow_of_tagged read]
                obtain ⟨entries, rfl, _, outcome⟩ := exists_of_tagged? read
                exact ih entries inner found outcome innerKeeps
      · rw [notes_sanitize_of_not_role role, warnings_nil]

end Aws

/-! ## Every provider -/

namespace Envelope

variable {provider : Provider} {envelope : Envelope} {name : String}

theorem tag_redactEntries (names : List String) (envelope : Envelope) :
    (envelope.redactEntries names).tag = envelope.tag := by
  induction names generalizing envelope with
  | nil => rfl
  | cons first rest ih => exact ih (envelope.redactEntry first)

theorem names_redactEntries (names : List String) (envelope : Envelope) :
    (envelope.redactEntries names).values.names = envelope.values.names := by
  induction names generalizing envelope with
  | nil => rfl
  | cons first rest ih =>
      exact (ih (envelope.redactEntry first)).trans (Dict.names_update _ first redactValue)

theorem notes_sanitize (notRole : envelope.tag ≠ Aws.assumeRoleTag) :
    (sanitize provider envelope).notes = [] := by
  cases provider with
  | azure | gcp | alibaba => rfl
  | aws => exact Aws.notes_sanitize_of_not_role notRole

theorem tag_sanitize (provider : Provider) (envelope : Envelope) :
    (sanitize provider envelope).value.tag = envelope.tag := by
  by_cases role : provider = .aws ∧ envelope.tag = Aws.assumeRoleTag
  · obtain ⟨rfl, _⟩ := role
    exact Aws.tag_sanitize envelope
  · rw [value_sanitize (not_and.mp role), tag_redactEntries]

/-- Redaction keeps the names of the values. -/
theorem names_sanitize (provider : Provider) (envelope : Envelope) :
    (sanitize provider envelope).value.values.names = envelope.values.names := by
  by_cases role : provider = .aws ∧ envelope.tag = Aws.assumeRoleTag
  · obtain ⟨rfl, role⟩ := role
    change (Aws.sanitize envelope).value.values.names = _
    cases present : present? envelope.values "configurer" with
    | none => rw [Aws.sanitize_of_bare_role role present, Logged.value_pure]
    | some nested =>
        obtain ⟨found, notNull⟩ := Json.present?_eq_some_iff.mp present
        rw [Aws.values_sanitize_of_nested role found notNull, Dict.names_update]
  · rw [value_sanitize (not_and.mp role), names_redactEntries]

end Envelope

open Aws (Unlocatable)

/-- Redaction of an envelope with one of the provider's tags keeps the tag and the names of the
values.  Each secret of the tag is replaced exactly if there is something in it, and stays as it is
otherwise; all other values but the entry nested in a role stay as they are, and nothing is logged
for them.  The nested entry becomes null exactly if it was null or no secret can be located in it.
Its own level warns exactly then and exactly once: if a secret can be located in it, the warnings are
those of the levels below. -/
theorem redaction_changes_exactly_secrets {provider : Provider} {envelope : Envelope}
    (owned : envelope.tag ∈ provider.tags) :
    let after := Envelope.sanitize provider envelope
    after.value.tag = envelope.tag ∧
    after.value.values.names = envelope.values.names ∧
    (∀ name, name ∉ provider.secretsOf envelope.tag →
      (envelope.tag = Aws.assumeRoleTag → name ≠ "configurer") →
        after.value.values.get? name = envelope.values.get? name) ∧
    (∀ name ∈ provider.secretsOf envelope.tag, ∀ value, envelope.values.get? name = some value →
      (after.value.values.get? name = some (.string redacted) ↔ value.HasContent) ∧
      (¬value.HasContent → after.value.values.get? name = some value)) ∧
    (envelope.tag ≠ Aws.assumeRoleTag → after.notes = []) ∧
    (envelope.tag = Aws.assumeRoleTag →
      (envelope.values.get? "configurer" = none → after = pure envelope) ∧
      ∀ nested, envelope.values.get? "configurer" = some nested →
        (after.value.values.get? "configurer" = some .null ↔ nested = .null ∨ Unlocatable nested) ∧
        (Unlocatable nested → warnings after.notes = [Aws.lossWarning]) ∧
        (¬Unlocatable nested → warnings after.notes = Aws.warningsBelow nested)) := by
  refine ⟨Envelope.tag_sanitize provider envelope, Envelope.names_sanitize provider envelope,
    ?others, ?secrets, Envelope.notes_sanitize, ?role⟩
  case others =>
    intro name notSecret notNested
    rw [Envelope.get?_sanitize_of_not_nested notNested, if_neg notSecret]
  case secrets =>
    intro name secret value found
    have replaced : (Envelope.sanitize provider envelope).value.values.get? name =
        some (Envelope.redactValue value) := by
      rw [Envelope.get?_sanitize (mem_secretNames_iff.mpr ⟨provider, envelope.tag, secret⟩),
        if_pos secret, found, Option.map_some]
    rw [replaced, Option.some.injEq, Option.some.injEq]
    exact ⟨Envelope.redactValue_eq_redacted_iff, Envelope.redactValue_of_hollow⟩
  case role =>
    intro role
    obtain rfl : provider = .aws := by
      rw [role] at owned
      cases provider with
      | aws => rfl
      | azure | gcp | alibaba => exact absurd owned (by decide)
    constructor
    · intro absent
      exact Aws.sanitize_of_bare_role role (Json.present?_eq_none_iff.mpr (.inl absent))
    · intro nested found
      refine ⟨?_, Aws.warnings_of_unlocatable role found, Aws.warnings_of_locatable role found⟩
      have placed := (Aws.get?_configurer_sanitize role).trans (congrArg (·.map Aws.replaced) found)
      change (Aws.sanitize envelope).value.values.get? "configurer" = _ ↔ _
      rw [placed, Option.map_some, Option.some.injEq, Aws.replaced_eq_null_iff]

/-- A role over a credential with a misspelled tag, and a shared key in both spellings. -/
theorem redaction_changes_exactly_secrets_misspelled_tag :
    let misspelled : Value := .object
      [("type", .string "AWSAcessKey"), ("values", .object [("secret", .string "hunter2")])]
    let role : Envelope := ⟨"AWSAssumeRole", [("configurer", misspelled), ("roleARN", .string "arn")]⟩
    let key : Envelope := ⟨"AzureAccessKey",
      [("accessKey", .bool false), ("accesskey", .string ""), ("account", .string "acct")]⟩
    role.tag ∈ Provider.tags .aws ∧ key.tag ∈ Provider.tags .azure ∧
      (Aws.sanitize role).value.values.get? "configurer" = some .null ∧
      warnings (Aws.sanitize role).notes = [Aws.lossWarning] ∧
      (Envelope.sanitize .azure key).value.values.get? "accessKey" = some (.string redacted) ∧
      (Envelope.sanitize .azure key).value.values.get? "accesskey" = some (.string "") := by
  intro misspelled role key
  have roleOwned : role.tag ∈ Provider.tags .aws := by decide
  have keyOwned : key.tag ∈ Provider.tags .azure := by decide
  have lost : Unlocatable misspelled := .foreign rfl rfl (by decide)
  obtain ⟨_, _, _, _, _, nestedEffect⟩ := redaction_changes_exactly_secrets roleOwned
  obtain ⟨becomesNull, warns, _⟩ := (nestedEffect rfl).2 misspelled rfl
  obtain ⟨_, _, _, secretEffect, _, _⟩ := redaction_changes_exactly_secrets keyOwned
  have filled := secretEffect "accessKey" (by decide) (.bool false) rfl
  have hollow := secretEffect "accesskey" (by decide) (.string "") rfl
  refine ⟨roleOwned, keyOwned, becomesNull.mpr (.inr lost), warns lost, filled.1.mpr (.bool false),
    hollow.2 ?_⟩
  rw [Value.hasContent_iff]
  decide

end CloudBilling
