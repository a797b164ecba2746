import CloudBilling.Proofs.Aws.Replacing

/-!
# What stands at each level after redaction

Roles nest, so an entry may stand any number of levels below a value, and each level may be read by
its tag or by its shape.  As long as every level above is read by its tag, redaction replaces an
entry by itself.  Below the first level that is read by its shape there is only what decoding that
level came to: the redacted credentials of a chain that was decoded with no fewer levels left than
decoding the whole has there.
-/

namespace CloudBilling.Aws

open Json (Value present?)
open Aws.Credential

variable {value nested before after final : Value} {envelope : Envelope}
variable {found : Option Credential} {levels steps : Nat}

/-! ## The levels below a value -/

/-- The entry nested in a value that is read by its tag as a role. -/
def nestedByTag? (value : Value) : Option Value := do
  let envelope ← tagged? value
  if envelope.tag = assumeRoleTag then envelope.values.get? "configurer" else none

/-- The entry nested in a map that is read by its shape as a role. -/
def nestedByShape? : Value → Option Value
  | .object entries => if Dict.has entries "roleARN" then Dict.get? entries "configurer" else none
  | _ => none

/-- The entry nested in a role, however that is written. -/
def nested? (value : Value) : Option Value :=
  (nestedByTag? value).or (nestedByShape? value)

/-- The value so many steps below a value. -/
def down (step : Value → Option Value) : Nat → Value → Option Value
  | 0, value => some value
  | steps + 1, value => (step value).bind (down step steps)

theorem nestedByTag?_of_untagged (untagged : tagged? value = none) : nestedByTag? value = none := by
  rw [nestedByTag?, untagged]
  rfl

theorem nestedByTag?_of_tagged (read : tagged? value = some envelope) :
    nestedByTag? value =
      if envelope.tag = assumeRoleTag then envelope.values.get? "configurer" else none := by
  rw [nestedByTag?, read]
  rfl

/-- What is read by its tag is not read by its shape. -/
theorem nested?_of_tagged (read : tagged? value = some envelope) :
    nested? value = nestedByTag? value := by
  obtain ⟨entries, rfl, byTag, outcome⟩ := exists_of_tagged? read
  obtain ⟨_, noArn, _⟩ := isReadByTag_aws_iff.mp byTag
  rw [nested?, nestedByShape?, noArn, if_neg (by decide), Option.or_none]

theorem nested?_of_untagged (untagged : tagged? value = none) :
    nested? value = nestedByShape? value := by
  rw [nested?, nestedByTag?_of_untagged untagged, Option.none_or]

theorem exists_role_of_tagged (read : tagged? value = some envelope)
    (below : nested? value = some nested) :
    envelope.tag = assumeRoleTag ∧ envelope.values.get? "configurer" = some nested := by
  rw [nested?_of_tagged read, nestedByTag?_of_tagged read] at below
  split at below
  · next role => exact ⟨role, below⟩
  · cases below

theorem exists_role_of_untagged (untagged : tagged? value = none)
    (below : nested? value = some nested) :
    ∃ entries : Dict Value, value = .object entries ∧ entries.has "roleARN" = true ∧
      entries.get? "configurer" = some nested := by
  rw [nested?_of_untagged untagged] at below
  cases value with
  | null | bool | number | string | array => cases below
  | object entries =>
      rw [nestedByShape?] at below
      split at below
      · next arn => exact ⟨entries, rfl, arn, below⟩
      · cases below

theorem exists_of_down_succ {step : Value → Option Value}
    (reached : down step (steps + 1) value = some final) :
    ∃ nested, step value = some nested ∧ down step steps nested = some final :=
  Option.bind_eq_some_iff.mp reached

/-- Nothing but a role has an entry below the value of its envelope. -/
theorem role_of_down_toValue
    (reached : down nested? (steps + 1) envelope.toValue = some before) :
    envelope.tag = assumeRoleTag := by
  obtain ⟨nested, below, _⟩ := exists_of_down_succ reached
  exact (exists_role_of_tagged (tagged?_toValue envelope) below).1

/-! ## Below what was read again -/

/-- A value decodes to a credential, or to none, where so many levels may be entered.  Null needs no
level to be read as none. -/
def ReadsAs (levels : Nat) (value : Value) (found : Option Credential) : Prop :=
  value = .null ∧ found = none ∨ (decodeWithin levels value).outcome = .ok found

theorem readsAs_of_roleOfMap {values : Dict Value} {base : Option Credential} {roleArn : String}
    (decoded : (roleOfMap (decodeWithin levels) values).outcome = .ok (assumeRole base roleArn))
    (below : values.get? "configurer" = some nested) : ReadsAs levels nested base := by
  obtain ⟨_, _, rest⟩ := outcome_roleOfMap_eq_ok_iff.mp decoded
  cases present : present? values "configurer" with
  | none =>
      rw [present] at rest
      cases rest
      rcases Json.present?_eq_none_iff.mp present with absent | null
      · rw [absent] at below
        cases below
      · rw [null] at below
        cases below
        exact .inl ⟨rfl, rfl⟩
  | some value =>
      rw [present] at rest
      obtain ⟨_, decodedBelow, same⟩ := rest
      obtain ⟨found, _⟩ := Json.present?_eq_some_iff.mp present
      rw [found] at below
      cases below
      cases same
      exact .inr decodedBelow

/-- The entry nested in what is read as a role is read as the credential below the role. -/
theorem readsAs_nested {base : Option Credential} {roleArn : String}
    (decoded : (decodeWithin (levels + 1) value).outcome = .ok (some (assumeRole base roleArn)))
    (below : nested? value = some nested) : ReadsAs levels nested base := by
  cases read : tagged? value with
  | some envelope =>
      obtain ⟨role, found⟩ := exists_role_of_tagged read below
      rw [decodeWithin_of_tagged read] at decoded
      have decodedValues := (Envelope.outcome_resolve_eq_some_iff.mp decoded).2
      rw [role, ofTagged_assumeRole] at decodedValues
      exact readsAs_of_roleOfMap decodedValues found
  | none =>
      obtain ⟨entries, rfl, arn, found⟩ := exists_role_of_untagged read below
      rw [decodeWithin_flatRole arn, RoleForm.outcome_carry_eq_some_iff] at decoded
      exact readsAs_of_roleOfMap decoded found

/-- One level below a value that is read as a credential, and below the value of that credential's
envelope, stand an entry that is read as a credential again, and the value of its envelope. -/
theorem ReadsAs.below (reads : ReadsAs levels value found)
    (below : nested? value = some nested)
    (belowAfter : nested? (nestedValue (found.map redact)) = some after) :
    ∃ rest base, levels = rest + 1 ∧ ReadsAs rest nested base ∧
      after = nestedValue (base.map redact) := by
  rcases reads with ⟨rfl, rfl⟩ | decoded
  · cases below
  · cases found with
    | none => cases belowAfter
    | some credential =>
        obtain ⟨role, placed⟩ := exists_role_of_tagged (tagged?_toValue _) belowAfter
        cases levels with
        | zero =>
            rw [decodeWithin_zero] at decoded
            cases decoded
        | succ rest =>
            cases credential with
            | accessKey key => exact absurd role assumeRoleTag_ne_accessKeyTag.symm
            | serviceAccount => exact absurd role (by decide)
            | assumeRole base roleArn =>
                refine ⟨rest, base, rfl, readsAs_nested decoded below, ?_⟩
                rw [redact_assumeRole, get?_toEnvelope_configurer] at placed
                exact (Option.some.inj placed).symm

theorem ReadsAs.down (reads : ReadsAs levels value found)
    (reached : down nested? steps value = some before)
    (reachedAfter : Aws.down nested? steps (nestedValue (found.map redact)) = some after) :
    ∃ rest base, levels = rest + steps ∧ ReadsAs rest before base ∧
      after = nestedValue (base.map redact) := by
  induction steps generalizing levels value found with
  | zero =>
      cases reached
      cases reachedAfter
      exact ⟨levels, found, rfl, reads, rfl⟩
  | succ steps ih =>
      obtain ⟨nested, below, reached⟩ := exists_of_down_succ reached
      obtain ⟨nestedAfter, belowAfter, reachedAfter⟩ := exists_of_down_succ reachedAfter
      obtain ⟨rest, base, rfl, readsBelow, rfl⟩ := reads.below below belowAfter
      obtain ⟨last, final, rfl, readsFinal, same⟩ := ih readsBelow reached reachedAfter
      exact ⟨last, final, rfl, readsFinal, same⟩

/-! ## Every level -/

/-- Where a value is read by its tag, the entry nested in it is replaced by itself. -/
theorem nested?_replaced_of_tagged (read : tagged? value = some envelope)
    (below : nested? value = some nested) : nested? (replaced value) = some (replaced nested) := by
  obtain ⟨role, found⟩ := exists_role_of_tagged read below
  have owned : envelope.tag ∈ Provider.tags .aws := by
    rw [role]
    decide
  have readAfter : tagged? (sanitize envelope).value.toValue = some (sanitize envelope).value :=
    tagged?_toValue _
  rw [replaced_of_owned read owned, nested?_of_tagged readAfter,
    nestedByTag?_of_tagged readAfter, tag_sanitize, if_pos role, get?_configurer_sanitize role,
    found, Option.map_some]

/-- What stands at a level before and after redaction: if all levels above it are read by their
tags, an entry and what it is replaced by; else an entry and the redacted credential that is found
in it where as many levels may be entered as below the outermost one, or more. -/
theorem down_replaced (reached : down nested? steps value = some before)
    (reachedAfter : down nested? steps (replaced value) = some after) :
    down nestedByTag? steps value = some before ∧ after = replaced before ∨
      down nestedByTag? steps value = none ∧ ∃ levels found, maxDepth + 1 ≤ levels + steps ∧
        ReadsAs levels before found ∧ after = nestedValue (found.map redact) := by
  induction steps generalizing value with
  | zero =>
      cases reached
      cases reachedAfter
      exact .inl ⟨rfl, rfl⟩
  | succ steps ih =>
      cases read : tagged? value with
      | some envelope =>
          obtain ⟨nested, below, reached⟩ := exists_of_down_succ reached
          obtain ⟨nestedAfter, belowAfter, reachedAfter⟩ := exists_of_down_succ reachedAfter
          rw [nested?_replaced_of_tagged read below] at belowAfter
          cases belowAfter
          have byTag : nestedByTag? value = some nested := nested?_of_tagged read ▸ below
          rw [down, byTag, Option.bind_some]
          rcases ih reached reachedAfter with same | ⟨untagged, levels, found, enough, rest⟩
          · exact .inl same
          · exact .inr ⟨untagged, levels, found, by omega, rest⟩
      | none =>
          refine .inr ⟨by rw [down, nestedByTag?_of_untagged read, Option.bind_none], ?_⟩
          rw [replaced_of_untagged read] at reachedAfter
          cases decoded : (decodeAt 0 value).outcome with
          | error failure =>
              rw [decoded] at reachedAfter
              cases reachedAfter
          | ok found =>
              rw [decoded] at reachedAfter
              have reads : ReadsAs (maxDepth + 1) value found := .inr decoded
              obtain ⟨rest, base, levels, readsBase, same⟩ := reads.down reached reachedAfter
              exact ⟨rest, base, Nat.le_of_eq levels, readsBase, same⟩

end CloudBilling.Aws
