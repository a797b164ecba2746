import CloudBilling.Credential.Envelope
import CloudBilling.Proofs.Field

/-!
# Envelopes as values

An envelope that is put into a value and read again is the same envelope, and no key of that value
is one by which a provider recognizes an untagged map.  The credential in an envelope is the one
that its tag and values decode to; of the failures of that decoding only the limit on nesting is
a failure of the envelope.
-/

namespace CloudBilling.Envelope

open Json (Value present?)

variable {provider : Provider} {envelope : Envelope}

/-! ## Reading back what was put into a value -/

/-- The entries of the value that an envelope is put into. -/
def entries (envelope : Envelope) : Dict Value :=
  if envelope.values.isEmpty then [("type", .string envelope.tag)]
  else [("type", .string envelope.tag), ("values", .object envelope.values)]

/-- An envelope is written as a record as it is written otherwise. -/
theorem written_eq_toValue (envelope : Envelope) : envelope.written = envelope.toValue := by
  rw [written, toValue]
  split <;> rfl

theorem toValue_eq_object (envelope : Envelope) :
    envelope.toValue = .object envelope.entries := by
  unfold toValue entries
  split <;> rfl

theorem toValue_ne_null (envelope : Envelope) : envelope.toValue ≠ .null := by
  simp [toValue_eq_object]

@[simp] theorem entries_ne_nil (envelope : Envelope) : envelope.entries ≠ [] := by
  unfold entries
  split <;> simp

@[simp] theorem get?_entries_type (envelope : Envelope) :
    envelope.entries.get? "type" = some (.string envelope.tag) := by
  unfold entries
  split <;> rfl

theorem get?_entries_values (envelope : Envelope) :
    envelope.entries.get? "values" =
      if envelope.values.isEmpty then none else some (.object envelope.values) := by
  unfold entries
  split <;> simp [Dict.get?_cons]

/-- The value of an envelope has no keys but the tag's and the values'. -/
theorem get?_entries_of_ne (envelope : Envelope) {key : String} (notType : "type" ≠ key)
    (notValues : "values" ≠ key) : envelope.entries.get? key = none := by
  unfold entries
  split <;> simp [Dict.get?_cons, notType, notValues]

theorem has_entries_type (envelope : Envelope) : envelope.entries.has "type" = true := by
  simp [Dict.has]

theorem has_entries_of_ne (envelope : Envelope) {key : String} (notType : "type" ≠ key)
    (notValues : "values" ≠ key) : envelope.entries.has key = false := by
  simp [Dict.has, get?_entries_of_ne envelope notType notValues]

theorem isReadByTag_iff {source : Dict Value} :
    isReadByTag provider source = true ↔
      source.has "type" = true ∧ ∀ key ∈ provider.shapeKeys, source.has key = false := by
  simp [isReadByTag]

/-- Every provider reads the value of an envelope by its tag. -/
theorem isReadByTag_entries (provider : Provider) (envelope : Envelope) :
    isReadByTag provider envelope.entries = true := by
  cases provider <;>
    simp [isReadByTag, Provider.shapeKeys, has_entries_type, has_entries_of_ne]

/-- An envelope is read exactly out of a map with its tag and its values, where absent and null
values are empty ones. -/
theorem ofMap_eq_ok_iff {source : Dict Value} {tag : String} {values : Dict Value} :
    ofMap provider source = .ok ⟨tag, values⟩ ↔
      source.get? "type" = some (.string tag) ∧
        (source.get? "values" = some (.object values) ∨
          present? source "values" = none ∧ values = []) := by
  unfold ofMap
  rw [← Json.field_string_eq_ok_iff, ← Json.field_map_eq_ok_iff, Json.optionalField_eq]
  cases Json.field .string source "type" with
  | error failure => simp [bind, Except.bind]
  | ok found =>
      cases present : present? source "values" with
      | none =>
          have unread : Json.field .map source "values" ≠ .ok values := by
            rw [ne_eq, Json.field_map_eq_ok_iff]
            intro found
            rcases Json.present?_eq_none_iff.mp present with absent | null
            · simp [absent] at found
            · simp [null] at found
          simp [bind, Except.bind, pure, Except.pure, unread, eq_comm]
      | some value =>
          cases Json.field .map source "values" <;>
            simp [bind, Except.bind, pure, Except.pure, Except.map]

theorem ofMap_entries (provider : Provider) (envelope : Envelope) :
    ofMap provider envelope.entries = .ok envelope := by
  refine ofMap_eq_ok_iff.mpr ⟨get?_entries_type envelope, ?_⟩
  rw [Json.present?_eq_none_iff, get?_entries_values]
  by_cases empty : envelope.values = []
  · exact .inr (by simp [empty])
  · exact .inl (by simp [empty])

theorem decode_toValue (provider : Provider) (envelope : Envelope) :
    decode provider envelope.toValue = .ok envelope := by
  rw [toValue_eq_object]
  exact ofMap_entries provider envelope

theorem withinLimit_ofMap (provider : Provider) (source : Dict Value) :
    (ofMap provider source).WithinLimit := by
  apply Outcome.WithinLimit.within
  apply Outcome.WithinLimit.bind (Json.withinLimit_field _ _ _)
  intro tag
  apply Outcome.WithinLimit.bind (Json.withinLimit_optionalField _ _ _)
  exact fun values => Outcome.withinLimit_ok _

/-! ## The credential in an envelope -/

variable {γ : Type} {decodeTagged : String → Dict Value → Decoder γ}

/-- What an attempt to decode the values of an envelope comes to for the envelope: a failure other
than the limit on nesting is logged, and then there is no credential. -/
def tolerate (provider : Provider) (attempt : Decoder γ) : Decoder (Option γ) :=
  match attempt.outcome with
  | .ok credential => ⟨.ok (some credential), attempt.notes⟩
  | .error failure =>
      if failure.cause.isNestingTooDeep then ⟨.error failure, attempt.notes⟩
      else
        ⟨.ok none, attempt.notes ++ [⟨.error, .envelope, conversionMessage provider failure⟩]⟩

theorem resolve_of_empty_tag (empty : envelope.tag = "") :
    envelope.resolve provider decodeTagged = pure none := by
  rw [resolve, if_pos empty]

theorem resolve_of_tag (nonempty : envelope.tag ≠ "") :
    envelope.resolve provider decodeTagged =
      tolerate provider (decodeTagged envelope.tag envelope.values) := by
  rw [resolve, if_neg nonempty]
  rfl

theorem tolerate_of_ok {attempt : Decoder γ} {credential : γ}
    (decoded : attempt.outcome = .ok credential) :
    tolerate provider attempt = ⟨.ok (some credential), attempt.notes⟩ := by
  simp [tolerate, decoded]

theorem tolerate_of_tooDeep {attempt : Decoder γ} {failure : Failure}
    (failed : attempt.outcome = .error failure)
    (tooDeep : failure.cause.isNestingTooDeep = true) :
    tolerate provider attempt = ⟨.error failure, attempt.notes⟩ := by
  simp [tolerate, failed, tooDeep]

theorem tolerate_of_other {attempt : Decoder γ} {failure : Failure}
    (failed : attempt.outcome = .error failure)
    (other : failure.cause.isNestingTooDeep = false) :
    tolerate provider attempt =
      ⟨.ok none, attempt.notes ++ [⟨.error, .envelope, conversionMessage provider failure⟩]⟩ := by
  simp [tolerate, failed, other]

theorem outcome_tolerate_eq_some_iff {attempt : Decoder γ} {credential : γ} :
    (tolerate provider attempt).outcome = .ok (some credential) ↔
      attempt.outcome = .ok credential := by
  cases reached : attempt.outcome with
  | ok decoded => simp [tolerate_of_ok reached]
  | error failure =>
      cases tooDeep : failure.cause.isNestingTooDeep with
      | true => simp [tolerate_of_tooDeep reached tooDeep]
      | false => simp [tolerate_of_other reached tooDeep]

theorem outcome_tolerate_eq_error_iff {attempt : Decoder γ} {failure : Failure} :
    (tolerate provider attempt).outcome = .error failure ↔
      attempt.outcome = .error failure ∧ failure.cause.isNestingTooDeep = true := by
  cases reached : attempt.outcome with
  | ok decoded => simp [tolerate_of_ok reached]
  | error reported =>
      cases tooDeep : reported.cause.isNestingTooDeep with
      | true =>
          simp only [tolerate_of_tooDeep reached tooDeep, Except.error.injEq, iff_self_and]
          exact fun same => same ▸ tooDeep
      | false =>
          simp only [tolerate_of_other reached tooDeep, reduceCtorEq, Except.error.injEq,
            false_iff, not_and]
          rintro rfl
          simp [tooDeep]

theorem outcome_tolerate_eq_none_iff {attempt : Decoder γ} :
    (tolerate provider attempt).outcome = .ok none ↔
      ∃ failure, attempt.outcome = .error failure ∧ failure.cause.isNestingTooDeep = false := by
  cases reached : attempt.outcome with
  | ok decoded => simp [tolerate_of_ok reached]
  | error failure =>
      cases tooDeep : failure.cause.isNestingTooDeep with
      | true => simp [tolerate_of_tooDeep reached tooDeep, tooDeep]
      | false => simp [tolerate_of_other reached tooDeep, tooDeep]

/-- A credential comes out of an envelope exactly when its tag is not empty and its values decode
to that credential. -/
theorem outcome_resolve_eq_some_iff {credential : γ} :
    (envelope.resolve provider decodeTagged).outcome = .ok (some credential) ↔
      envelope.tag ≠ "" ∧
        (decodeTagged envelope.tag envelope.values).outcome = .ok credential := by
  by_cases empty : envelope.tag = ""
  · simp [resolve_of_empty_tag empty, empty]
  · rw [resolve_of_tag empty, outcome_tolerate_eq_some_iff]
    simp [empty]

/-- An envelope fails exactly when the limit on nesting is why its values do. -/
theorem outcome_resolve_eq_error_iff {failure : Failure} :
    (envelope.resolve provider decodeTagged).outcome = .error failure ↔
      envelope.tag ≠ "" ∧
        (decodeTagged envelope.tag envelope.values).outcome = .error failure ∧
          failure.cause.isNestingTooDeep = true := by
  by_cases empty : envelope.tag = ""
  · simp [resolve_of_empty_tag empty, empty]
  · rw [resolve_of_tag empty, outcome_tolerate_eq_error_iff]
    simp [empty]

/-- Nothing comes out of an envelope exactly when its tag is empty, or its values fail for another
cause than the limit on nesting. -/
theorem outcome_resolve_eq_none_iff :
    (envelope.resolve provider decodeTagged).outcome = .ok none ↔
      envelope.tag = "" ∨ ∃ failure,
        (decodeTagged envelope.tag envelope.values).outcome = .error failure ∧
          failure.cause.isNestingTooDeep = false := by
  by_cases empty : envelope.tag = ""
  · simp [resolve_of_empty_tag empty, empty]
  · rw [resolve_of_tag empty, outcome_tolerate_eq_none_iff]
    simp [empty]

/-- Opening an envelope gives a credential exactly when resolving it does. -/
theorem value_open?_eq_some_iff {credential : γ} :
    (envelope.open? provider decodeTagged).value = some credential ↔
      envelope.tag ≠ "" ∧
        (decodeTagged envelope.tag envelope.values).outcome = .ok credential := by
  have resolved := @outcome_resolve_eq_some_iff provider envelope γ decodeTagged credential
  rw [← resolved, open?]
  cases reached : (envelope.resolve provider decodeTagged).outcome with
  | ok decoded => simp
  | error failure => simp

end CloudBilling.Envelope
