import CloudBilling.Program
import CloudBilling.Proofs.Idempotence
import CloudBilling.Proofs.Merging
import Mathlib.Data.List.Forall2

/-!
# What is printed does not depend on secrets

Two lists of entries that differ in secrets only are merged into lists that differ in secrets only:
keys and sources decide which entry is kept, and neither holds a secret.  Such entries are printed
alike and are valid or invalid alike, so a run prints the same for both lists, or fails alike.
-/

namespace CloudBilling

/-! ## Entries that differ in their secrets only -/

namespace Integration

/-- Two configurations of a kind agree up to secrets: all their fields are equal but the
credentials, and those agree up to secrets. -/
structure Config.AgreeUpToSecrets (kind : Kind) (left right : Config kind) : Prop where
  fields : (Record.withCredential none kind left : Transfer kind) =
    Record.withCredential none kind right
  credentials : Option.Rel (Credential.AgreeUpToSecrets kind.provider)
    (Record.credential kind left) (Record.credential kind right)

/-- Two integrations agree up to secrets: they are of one kind, and their configurations agree. -/
inductive AgreeUpToSecrets : Integration → Integration → Prop
  | intro {kind : Kind} {left right : Config kind} :
      Config.AgreeUpToSecrets kind left right → AgreeUpToSecrets ⟨kind, left⟩ ⟨kind, right⟩

end Integration

/-- Two entries agree up to secrets: they are from one source, and their integrations agree. -/
structure Entry.AgreeUpToSecrets (left right : Entry) : Prop where
  source : left.source = right.source
  integration : left.integration.AgreeUpToSecrets right.integration

/-- Related optional values are both absent or both there. -/
theorem absent_or_present {α β : Type} {related : α → β → Prop} {left : Option α}
    {right : Option β} (rel : Option.Rel related left right) :
    (left = none ∧ right = none) ∨
      ∃ former latter, left = some former ∧ right = some latter ∧ related former latter := by
  cases rel with
  | none => exact .inl ⟨rfl, rfl⟩
  | some same => exact .inr ⟨_, _, rfl, rfl, same⟩

/-! ## Validation -/

/-- Whether a required field is filled does not depend on what it is filled with. -/
theorem Interchangeable.requireField_eq {left right : String} (same : Interchangeable left right)
    (typeName field : String) :
    requireField typeName field left = requireField typeName field right := by
  rcases same with rfl | ⟨leftFilled, rightFilled⟩
  · rfl
  · rw [requireField, requireField, if_neg leftFilled, if_neg rightFilled]

theorem Aws.Credential.AgreeUpToSecrets.validate_eq {left right : Aws.Credential}
    (agree : left.AgreeUpToSecrets right) : left.validate = right.validate := by
  induction agree with
  | accessKey id same =>
      simp only [validate, AccessKey.validate, same.requireField_eq]
  | serviceAccount => rfl
  | bareRole roleArn => rfl
  | role roleArn _ ih => rw [validate, validate, ih]

theorem Azure.Credential.AgreeUpToSecrets.validate_eq {left right : Azure.Credential}
    (agree : left.AgreeUpToSecrets right) : left.validate = right.validate := by
  cases agree with
  | accessKey account same => simp only [validate, AccessKey.validate, same.requireField_eq]

theorem Gcp.Credential.AgreeUpToSecrets.validate_eq {left right : Gcp.Credential}
    (agree : left.AgreeUpToSecrets right) : left.validate = right.validate := by
  cases agree with
  | sameKey file => rfl
  | workloadIdentity => rfl
  | key leftFilled rightFilled => simp [validate, Key.validate, leftFilled, rightFilled]

theorem Alibaba.Credential.AgreeUpToSecrets.validate_eq {left right : Alibaba.Credential}
    (agree : left.AgreeUpToSecrets right) : left.validate = right.validate := by
  cases agree with
  | accessKey id same => simp only [validate, AccessKey.validate, same.requireField_eq]

theorem Credential.AgreeUpToSecrets.validate_eq {provider : Provider}
    {left right : Credential provider} (agree : AgreeUpToSecrets provider left right) :
    validate provider left = validate provider right := by
  cases provider with
  | aws => exact Aws.Credential.AgreeUpToSecrets.validate_eq agree
  | azure => exact Azure.Credential.AgreeUpToSecrets.validate_eq agree
  | gcp => exact Gcp.Credential.AgreeUpToSecrets.validate_eq agree
  | alibaba => exact Alibaba.Credential.AgreeUpToSecrets.validate_eq agree

namespace Integration

namespace Config.AgreeUpToSecrets

variable {kind : Kind} {left right : Config kind}

theorem required_eq (agree : AgreeUpToSecrets kind left right) :
    Record.required kind left = Record.required kind right := by
  rw [← Record.required_withCredential (none : Option Envelope) kind left, agree.fields,
    Record.required_withCredential]

theorem key_eq (agree : AgreeUpToSecrets kind left right) :
    Record.key kind left = Record.key kind right := by
  rw [← Record.key_withCredential (none : Option Envelope) kind left, agree.fields,
    Record.key_withCredential]

theorem validate_eq (agree : AgreeUpToSecrets kind left right) :
    validate kind left = validate kind right := by
  rw [validate, validate, agree.required_eq]
  rcases absent_or_present agree.credentials with
    ⟨leftAbsent, rightAbsent⟩ | ⟨_, _, leftPresent, rightPresent, same⟩
  · rw [leftAbsent, rightAbsent]
  · simp only [leftPresent, rightPresent, same.validate_eq]

/-- In transit with one and the same envelope they are the same. -/
theorem withCredential_eq (agree : AgreeUpToSecrets kind left right)
    (replacement : Option Envelope) :
    (Record.withCredential replacement kind left : Transfer kind) =
      Record.withCredential replacement kind right := by
  rw [← Record.withCredential_withCredential (none : Option Envelope) replacement kind left,
    agree.fields, Record.withCredential_withCredential]

/-- What is left after redaction is the same. -/
theorem sanitize_eq (agree : AgreeUpToSecrets kind left right) :
    Transfer.sanitize kind (toTransfer kind left) =
      Transfer.sanitize kind (toTransfer kind right) := by
  rw [toTransfer, toTransfer]
  rcases absent_or_present agree.credentials with
    ⟨leftAbsent, rightAbsent⟩ | ⟨_, _, leftPresent, rightPresent, same⟩
  · rw [leftAbsent, rightAbsent, Option.map_none, agree.withCredential_eq]
  · rw [leftPresent, rightPresent, Option.map_some, Option.map_some,
      Transfer.sanitize_of_present (Record.credential_withCredential _ kind left),
      Transfer.sanitize_of_present (Record.credential_withCredential _ kind right),
      same.sanitize_eq]
    simp only [Record.withCredential_withCredential, agree.withCredential_eq]

theorem toSanitizedValue_eq (agree : AgreeUpToSecrets kind left right) :
    toSanitizedValue kind left = toSanitizedValue kind right := by
  rw [toSanitizedValue, toSanitizedValue, agree.sanitize_eq]

end Config.AgreeUpToSecrets

namespace AgreeUpToSecrets

variable {left right : Integration}

theorem kind_eq (agree : AgreeUpToSecrets left right) : left.kind = right.kind := by
  cases agree with
  | intro configs => rfl

theorem key_eq (agree : AgreeUpToSecrets left right) : left.key = right.key := by
  cases agree with
  | intro configs => exact configs.key_eq

theorem validate_eq (agree : AgreeUpToSecrets left right) : left.validate = right.validate := by
  cases agree with
  | intro configs => exact configs.validate_eq

theorem toSanitizedValue_eq (agree : AgreeUpToSecrets left right) :
    left.toSanitizedValue = right.toSanitizedValue := by
  cases agree with
  | intro configs => exact configs.toSanitizedValue_eq

end AgreeUpToSecrets

end Integration

namespace Entry

namespace AgreeUpToSecrets

variable {left right : Entry}

theorem key_eq (agree : AgreeUpToSecrets left right) : left.key = right.key :=
  agree.integration.key_eq

theorem validate_eq (agree : AgreeUpToSecrets left right) : left.validate = right.validate :=
  agree.integration.validate_eq

theorem toSanitizedValue_eq (agree : AgreeUpToSecrets left right) :
    left.toSanitizedValue = right.toSanitizedValue := by
  rw [toSanitizedValue, toSanitizedValue, agree.integration.toSanitizedValue_eq, agree.source,
    agree.integration.kind_eq]

end AgreeUpToSecrets

/-- Lists of entries that agree position by position are printed alike. -/
theorem listToSanitizedValue_eq {left right : List Entry}
    (agree : List.Forall₂ AgreeUpToSecrets left right) :
    listToSanitizedValue left = listToSanitizedValue right := by
  have values : left.mapM toSanitizedValue = right.mapM toSanitizedValue := by
    induction agree with
    | nil => rfl
    | cons head _ ih => rw [List.mapM_cons, List.mapM_cons, head.toSanitizedValue_eq, ih]
  rw [listToSanitizedValue, listToSanitizedValue, values]

/-! ## Merging -/

/-- What is held for one list and what is held for the other: entries that agree, under the same
keys. -/
def HeldAlike (left right : Dict Entry) : Prop :=
  List.Forall₂ (fun former latter => former.1 = latter.1 ∧ AgreeUpToSecrets former.2 latter.2)
    left right

namespace HeldAlike

variable {left right : Dict Entry} {leftEntry rightEntry : Entry}

/-- Entries are found under the same keys. -/
theorem get? (alike : HeldAlike left right) (key : String) :
    Option.Rel AgreeUpToSecrets (left.get? key) (right.get? key) := by
  induction alike with
  | nil => exact .none
  | cons head _ ih =>
      obtain ⟨sameName, agree⟩ := head
      rw [Dict.get?, Dict.get?, sameName]
      split
      · exact .some agree
      · exact ih

theorem put (alike : HeldAlike left right) (key : String)
    (agree : AgreeUpToSecrets leftEntry rightEntry) :
    HeldAlike (left.put key leftEntry) (right.put key rightEntry) := by
  induction alike with
  | nil => exact .cons ⟨rfl, agree⟩ .nil
  | cons head rest ih =>
      have sameName := head.1
      rw [Dict.put, Dict.put, sameName]
      split
      · exact .cons ⟨rfl, agree⟩ (.cons ⟨rfl, head.2⟩ rest)
      · split
        · exact .cons ⟨rfl, agree⟩ rest
        · exact .cons ⟨rfl, head.2⟩ ih

/-- Whether an entry replaces the one that is held depends on their sources only. -/
theorem absorb (alike : HeldAlike left right) (agree : AgreeUpToSecrets leftEntry rightEntry) :
    HeldAlike (Entry.absorb left leftEntry).value (Entry.absorb right rightEntry).value := by
  have sameKey := agree.key_eq
  rcases absent_or_present (alike.get? leftEntry.key) with
    ⟨leftAbsent, rightAbsent⟩ | ⟨_, _, leftPresent, rightPresent, held⟩
  · rw [sameKey] at rightAbsent
    rw [value_absorb_of_absent leftAbsent, value_absorb_of_absent rightAbsent, sameKey]
    exact alike.put _ agree
  · rw [sameKey] at rightPresent
    -- The integrations themselves are compared too, but only to log a conflict, which leaves the
    -- value as it is.
    rw [value_absorb_of_present leftPresent, value_absorb_of_present rightPresent, sameKey,
      held.source, agree.source]
    refine alike.put _ ?_
    split
    · exact agree
    · exact held

theorem absorbAll (alike : HeldAlike left right) {leftEntries rightEntries : List Entry}
    (agree : List.Forall₂ AgreeUpToSecrets leftEntries rightEntries) :
    HeldAlike (Entry.absorbAll left leftEntries).value
      (Entry.absorbAll right rightEntries).value := by
  induction agree generalizing left right with
  | nil => exact alike
  | cons head _ ih => exact ih (alike.absorb head)

theorem entries (alike : HeldAlike left right) :
    List.Forall₂ AgreeUpToSecrets (left.map (·.2)) (right.map (·.2)) := by
  refine List.forall₂_map_left_iff.mpr (List.forall₂_map_right_iff.mpr (alike.imp ?_))
  exact fun _ _ held => held.2

end HeldAlike

/-- Merging lists that agree keeps entries that agree. -/
theorem merge_agree {left right : List Entry} (agree : List.Forall₂ AgreeUpToSecrets left right) :
    List.Forall₂ AgreeUpToSecrets (merge left).value (merge right).value := by
  have alike : HeldAlike (absorbAll [] left).value (absorbAll [] right).value :=
    HeldAlike.absorbAll .nil agree
  exact alike.entries

/-- How many entries are invalid. -/
def countInvalid (entries : List Entry) : Nat :=
  entries.countP fun entry => !entry.validate.isOk

theorem countInvalid_eq {left right : List Entry}
    (agree : List.Forall₂ AgreeUpToSecrets left right) :
    countInvalid left = countInvalid right := by
  induction agree with
  | nil => rfl
  | cons head _ ih =>
      simp only [countInvalid, List.countP_cons, head.validate_eq] at ih ⊢
      rw [ih]

end Entry

/-! ## A run -/

namespace Program

theorem value_reviewEntry (entry : Entry) :
    (reviewEntry entry).value = entry.validate.isOk := by
  rw [reviewEntry]
  cases entry.validate with
  | ok => rfl
  | error problem => rfl

theorem value_review (entries : List Entry) :
    (review entries).value = Entry.countInvalid entries := by
  induction entries with
  | nil => rfl
  | cons entry rest ih =>
      simp only [review, Entry.countInvalid, List.countP_cons, Logged.value_bind,
        value_reviewEntry, Logged.value_pure] at ih ⊢
      rw [ih]
      cases entry.validate.isOk <;> rfl

/-- What is answered: a report if there is an invalid entry where none is allowed, and the merged
entries with their secrets redacted otherwise. -/
theorem value_answer (strict : Bool) (entries : List Entry) :
    (answer strict entries).value =
      let merged := (Entry.merge entries).value
      let invalid := Entry.countInvalid merged
      if strict && 0 < invalid then
        .error (.ofMessage
          s!"{invalid} of {merged.length} merged integration(s) failed validation.")
      else .ok ((Entry.listToSanitizedValue merged).value.pretty ++ "\n") := by
  simp only [answer, Logged.value_bind, value_review]
  split <;> rfl

end Program

/-- Lists of entries that agree up to secrets are merged into lists that are printed alike and hold
equally many invalid entries.  A run prints the same for both lists, or fails with one report. -/
theorem answer_independent_of_secrets {left right : List Entry}
    (agree : List.Forall₂ Entry.AgreeUpToSecrets left right) :
    Entry.listToSanitizedValue (Entry.merge left).value =
        Entry.listToSanitizedValue (Entry.merge right).value ∧
      Entry.countInvalid (Entry.merge left).value = Entry.countInvalid (Entry.merge right).value ∧
      ∀ strict, (Program.answer strict left).value = (Program.answer strict right).value := by
  have merged := Entry.merge_agree agree
  have printed := Entry.listToSanitizedValue_eq merged
  have invalid := Entry.countInvalid_eq merged
  refine ⟨printed, invalid, ?_⟩
  intro strict
  simp only [Program.value_answer, printed, invalid, merged.length_eq]

/-- One bucket twice, with credentials that conflict in one list and not in the other, and a key
file that has more entries in one list than in the other. -/
theorem answer_independent_of_secrets_conflict :
    let bucket (secret : String) : Entry :=
      ⟨.helm, .s3, "bucket", "region", "account",
        some (.assumeRole (some (.accessKey ⟨"AKIA", secret⟩)) "role")⟩
    let table (file : Gcp.Key) : Entry :=
      ⟨.configFile, .bigQuery, "project", "dataset", "table", some (.key file)⟩
    let left := [bucket "first", bucket "first", table (.ofEntries [("a", "one")])]
    let right := [bucket "second", bucket "third", table (.ofEntries [("a", "two"), ("b", "")])]
    List.Forall₂ Entry.AgreeUpToSecrets left right ∧
      Entry.listToSanitizedValue (Entry.merge left).value =
        Entry.listToSanitizedValue (Entry.merge right).value := by
  intro bucket table left right
  have buckets {former latter : String} (formerFilled : former ≠ "") (latterFilled : latter ≠ "") :
      (bucket former).AgreeUpToSecrets (bucket latter) :=
    ⟨rfl, .intro ⟨rfl, .some <|
      .role "role" (.accessKey "AKIA" (.inr ⟨formerFilled, latterFilled⟩))⟩⟩
  have tables {former latter : Gcp.Key} (formerFilled : former.entries ≠ [])
      (latterFilled : latter.entries ≠ []) : (table former).AgreeUpToSecrets (table latter) :=
    ⟨rfl, .intro ⟨rfl, .some (.key formerFilled latterFilled)⟩⟩
  have agree : List.Forall₂ Entry.AgreeUpToSecrets left right :=
    .cons (buckets (by decide) (by decide)) <| .cons (buckets (by decide) (by decide)) <|
      .cons (tables (by decide) (by decide)) .nil
  exact ⟨agree, (answer_independent_of_secrets agree).1⟩

end CloudBilling
