import CloudBilling.Proofs.Aws.Nesting
import CloudBilling.Proofs.Reports

/-!
# Envelopes that cannot be used on a chain of roles

An envelope on a chain of roles that cannot be used leaves no credential at its level, and the levels
above it decode as if null stood there.  That is the one error that decoding logs: a level that goes
on with a nested entry adds no error to those of that entry.
-/

namespace CloudBilling.Aws.Credential

open Json (Value present?)
open Attempt
open Envelope (Degrades)

variable {value nested reached : Value} {entries values : Dict Value} {roleArn : String}
variable {inner : Value → Decoder (Option Credential)} {levels steps : Nat}

/-! ## Nothing is reported twice -/

theorem reportsOnce_keyOfMap (entries : Dict Value) : (keyOfMap entries).ReportsOnce :=
  reportsOnce_of_quiet (by rw [keyOfMap, notes_bind_pure, notes_liftM, errors_nil])

theorem reportsOnce_roleOfMap (once : ∀ value, (inner value).ReportsOnce) (entries : Dict Value) :
    (roleOfMap inner entries).ReportsOnce := by
  apply ReportsOnce.within
  apply reportsOnce_liftM_bind
  intro roleArn
  apply reportsOnce_liftM_bind
  intro nested
  cases nested with
  | none => exact reportsOnce_pure _
  | some value => exact (once value).map _

theorem reportsOnce_ofTagged (once : ∀ value, (inner value).ReportsOnce) (tag : String)
    (values : Dict Value) : (ofTagged inner tag values).ReportsOnce := by
  apply ReportsOnce.ite (reportsOnce_keyOfMap values)
  apply ReportsOnce.ite (reportsOnce_pure _)
  exact ReportsOnce.ite (reportsOnce_roleOfMap once values) (reportsOnce_fail _)

theorem reportsOnce_decodeWithin (levels : Nat) (value : Value) :
    (decodeWithin levels value).ReportsOnce := by
  induction levels generalizing value with
  | zero =>
      rw [decodeWithin_zero]
      exact reportsOnce_fail _
  | succ levels ih =>
      cases value with
      | null => exact reportsOnce_pure none
      | bool | number | string | array =>
          rw [decodeWithin_of_not_map rfl (by simp)]
          exact reportsOnce_fail _
      | object entries =>
          apply reportsOnce_liftM_bind
          intro entries
          apply ReportsOnce.ite (reportsOnce_of_quiet rfl)
          apply ReportsOnce.ite ((reportsOnce_roleOfMap ih entries).map some)
          apply ReportsOnce.ite
          · exact reportsOnce_of_quiet (by rw [notes_bind_pure, notes_liftM, errors_nil])
          · exact ReportsOnce.ite
              (Envelope.reportsOnce_readTagged (reportsOnce_ofTagged ih) entries)
              (reportsOnce_fail _)

/-! ## Where an error comes from -/

/-- An error in reading a role was logged for the nested entry. -/
theorem exists_of_errors_roleOfMap (reported : errors (roleOfMap inner entries).notes ≠ []) :
    ∃ roleArn nested, entries.get? "roleARN" = some (.string roleArn) ∧
      entries.get? "configurer" = some nested ∧ errors (inner nested).notes ≠ [] := by
  cases arnField : Json.field .string entries "roleARN" with
  | error failure =>
      rw [roleOfMap_of_unnamed arnField] at reported
      exact absurd rfl reported
  | ok roleArn =>
      have arn := Json.field_string_eq_ok_iff.mp arnField
      cases present : present? entries "configurer" with
      | none =>
          rw [roleOfMap_of_bare arn present] at reported
          exact absurd rfl reported
      | some nested =>
          rw [roleOfMap_of_nested arn present, roleOver, notes_within] at reported
          refine ⟨roleArn, nested, arn, (Json.present?_eq_some_iff.mp present).1, ?_⟩
          rwa [notes_bind_pure] at reported

/-- An error in reading the values of an envelope was logged for the entry nested in a role. -/
theorem exists_of_errors_ofTagged {tag : String}
    (reported : errors (ofTagged inner tag values).notes ≠ []) :
    tag = assumeRoleTag ∧ ∃ roleArn nested,
      values.get? "roleARN" = some (.string roleArn) ∧
        values.get? "configurer" = some nested ∧ errors (inner nested).notes ≠ [] := by
  by_cases role : tag = assumeRoleTag
  · rw [role, ofTagged_assumeRole] at reported
    exact ⟨role, exists_of_errors_roleOfMap reported⟩
  · by_cases key : tag = accessKeyTag
    · rw [key, ofTagged_accessKey, keyOfMap, notes_bind_pure, notes_liftM] at reported
      exact absurd rfl reported
    · by_cases account : tag = serviceAccountTag
      · rw [account, ofTagged_serviceAccount] at reported
        exact absurd rfl reported
      · rw [ofTagged_of_foreign key account role] at reported
        exact absurd rfl reported

/-- An error at the level of a map that is read by its tag. -/
theorem degrades_or_enters_of_tag (byTag : Envelope.isReadByTag .aws entries = true)
    (reported : errors (decodeWithin (levels + 1) (.object entries)).notes ≠ []) :
    Degrades .aws (ofTagged (decodeWithin levels)) (.object entries) ∨
      ∃ nested, Enters (.object entries) nested ∧ errors (decodeWithin levels nested).notes ≠ [] := by
  obtain ⟨type, noArn, noId⟩ := isReadByTag_aws_iff.mp byTag
  rw [decodeWithin_of_type noArn noId type] at reported
  cases read : Envelope.ofMap .aws entries with
  | error failure =>
      rw [read] at reported
      exact absurd rfl reported
  | ok envelope =>
      rw [read, liftM_ok, pure_bind] at reported
      rcases Envelope.errors_or_unusable reported with inside | unusable
      · obtain ⟨tag, values⟩ := envelope
        obtain ⟨rfl, roleArn, nested, arn, found, below⟩ := exists_of_errors_ofTagged inside
        obtain ⟨tagged, bag | ⟨_, rfl⟩⟩ := Envelope.ofMap_eq_ok_iff.mp read
        · exact .inr ⟨nested, .tagged noArn noId tagged bag arn found, below⟩
        · cases arn
      · exact .inl ⟨entries, envelope, rfl, byTag, read, unusable⟩

/-- An error at the level of a map. -/
theorem degrades_or_enters_of_object (entries : Dict Value)
    (reported : errors (decodeWithin (levels + 1) (.object entries)).notes ≠ []) :
    Degrades .aws (ofTagged (decodeWithin levels)) (.object entries) ∨
      ∃ nested, Enters (.object entries) nested ∧ errors (decodeWithin levels nested).notes ≠ [] := by
  cases arn : entries.has "roleARN" with
  | true =>
      rw [decodeWithin_of_roleArn arn, notes_bind_pure] at reported
      obtain ⟨roleArn, nested, named, found, inside⟩ := exists_of_errors_roleOfMap reported
      exact .inr ⟨nested, .flat named found, inside⟩
  | false =>
      cases id : entries.has "id" with
      | true =>
          rw [decodeWithin_of_id arn id, notes_bind_pure, keyOfMap, notes_bind_pure, notes_liftM] at reported
          exact absurd rfl reported
      | false =>
          cases type : entries.has "type" with
          | true => exact degrades_or_enters_of_tag (isReadByTag_aws_iff.mpr ⟨type, arn, id⟩) reported
          | false =>
              by_cases empty : entries = []
              · rw [empty, decodeWithin_empty] at reported
                exact absurd rfl reported
              · rw [decodeWithin_of_unrecognized empty arn id type] at reported
                exact absurd rfl reported

/-- An error at one level was logged for the entry with which it goes on, or for an unusable
envelope. -/
theorem degrades_or_enters (reported : errors (decodeWithin (levels + 1) value).notes ≠ []) :
    Degrades .aws (ofTagged (decodeWithin levels)) value ∨
      ∃ nested, Enters value nested ∧ errors (decodeWithin levels nested).notes ≠ [] := by
  cases value with
  | null => exact absurd rfl reported
  | bool | number | string | array =>
      rw [decodeWithin_of_not_map rfl (by simp)] at reported
      exact absurd rfl reported
  | object entries => exact degrades_or_enters_of_object entries reported

/-- An error that is logged in decoding was logged for an unusable envelope on the way. -/
theorem exists_degrades_of_errors (reported : errors (decodeWithin levels value).notes ≠ []) :
    ∃ steps below reached, levels = below + steps + 1 ∧ Reaches steps value reached ∧
      Degrades .aws (ofTagged (decodeWithin below)) reached := by
  induction levels generalizing value with
  | zero =>
      rw [decodeWithin_zero] at reported
      exact absurd rfl reported
  | succ levels ih =>
      rcases degrades_or_enters reported with degrades | ⟨nested, enters, inside⟩
      · exact ⟨0, levels, value, rfl, .here value, degrades⟩
      · obtain ⟨steps, below, reached, rfl, reaches, degrades⟩ := ih inside
        exact ⟨steps + 1, below, reached, rfl, .enter enters reaches, degrades⟩

/-! ## Null in the place of an envelope -/

/-- A value with the entry under a key changed, if it is a map. -/
def changeEntry (key : String) (change : Value → Value) : Value → Value
  | .object entries => .object (Dict.update entries key change)
  | value => value

/-- A value with the entry changed with which decoding goes on below it. -/
def changeNested (change : Value → Value) : Value → Value
  | .object entries =>
      if Dict.has entries "roleARN" then .object (Dict.update entries "configurer" change)
      else .object (Dict.update entries "values" (changeEntry "configurer" change))
  | value => value

/-- A value with null in the place that so many steps of decoding lead to. -/
def nullAt : Nat → Value → Value
  | 0, _ => .null
  | steps + 1, value => changeNested (nullAt steps) value

/-- What goes on below a value is changed, and nothing else that is read at its level. -/
theorem Enters.reads_changed (enters : Enters value nested) :
    ∃ form roleArn, ∀ levels,
      decodeWithin (levels + 2) value =
          RoleForm.carry form (roleOver roleArn (decodeWithin (levels + 1) nested)) ∧
        ∀ change, decodeWithin (levels + 2) (changeNested change value) =
          RoleForm.carry form (roleOver roleArn (decodeWithin (levels + 1) (change nested))) := by
  cases enters with
  | @flat entries roleArn nested arn found =>
      have named : entries.has "roleARN" = true := by rw [Dict.has, arn, Option.isSome_some]
      refine ⟨.flat, roleArn, fun levels => ⟨?_, fun change => ?_⟩⟩
      · rw [decodeWithin_flatRole named, roleOfMap_of_found arn found decodeWithin_null]
      · rw [changeNested, if_pos named, decodeWithin_flatRole (by rwa [Dict.has_update]),
          roleOfMap_of_found _ _ decodeWithin_null]
        · rwa [Dict.get?_update, if_neg (by decide)]
        · rw [Dict.get?_update, if_pos rfl, found, Option.map_some]
  | @tagged entries values roleArn nested noArn noId tag bag arn found =>
      refine ⟨.tagged, roleArn, fun levels => ⟨?_, fun change => ?_⟩⟩
      · rw [decodeWithin_taggedRole noArn noId tag bag,
          roleOfMap_of_found arn found decodeWithin_null]
      · have kept : (entries.update "values" (changeEntry "configurer" change)).get? "values" =
            some (.object (values.update "configurer" change)) := by
          rw [Dict.get?_update, if_pos rfl, bag, Option.map_some, changeEntry]
        rw [changeNested, if_neg (by rw [noArn]; decide),
          decodeWithin_taggedRole (by rwa [Dict.has_update]) (by rwa [Dict.has_update]) _ kept,
          roleOfMap_of_found _ _ decodeWithin_null]
        · rwa [Dict.get?_update, if_neg (by decide)]
        · rw [Dict.get?_update, if_pos rfl, found, Option.map_some]
        · rwa [Dict.get?_update, if_neg (by decide)]

/-- A level hands on what is decoded below it, with the events of that. -/
theorem RoleForm.carry_roleOver_of_ok (form : RoleForm) {base : Decoder (Option Credential)}
    {found : Option Credential} (decoded : base.outcome = .ok found) :
    form.carry (roleOver roleArn base) = ⟨.ok (some (.assumeRole found roleArn)), base.notes⟩ := by
  rw [roleOver_of_ok decoded]
  cases form with
  | flat => exact map_ok some (assumeRole found roleArn) base.notes
  | tagged => rfl

/-- What is logged below any number of roles, and leaves no credential there, counts as null above. -/
theorem Reaches.reports (reaches : Reaches steps value reached)
    (lost : (decodeWithin (levels + 1) reached).Reports none) :
    ∃ found, (decodeWithin (levels + steps + 1) value).Reports found ∧
      (decodeWithin (levels + steps + 1) (nullAt steps value)).Yields found := by
  induction reaches with
  | here value => exact ⟨none, lost, yields_pure none⟩
  | @enter steps value nested reached enters _ ih =>
      obtain ⟨base, ⟨decoded, once⟩, nulled, quiet⟩ := ih lost
      obtain ⟨form, roleArn, reads⟩ := enters.reads_changed
      obtain ⟨here, changed⟩ := reads (levels + steps)
      refine ⟨some (.assumeRole base roleArn), ?_, ?_⟩
      · rw [← Nat.add_assoc, here, form.carry_roleOver_of_ok decoded]
        exact ⟨rfl, once⟩
      · rw [← Nat.add_assoc, nullAt, changed, form.carry_roleOver_of_ok nulled]
        exact ⟨rfl, quiet⟩

end CloudBilling.Aws.Credential
