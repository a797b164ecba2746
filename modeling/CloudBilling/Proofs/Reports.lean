import CloudBilling.Proofs.Errors
import CloudBilling.Proofs.RoundTrip

/-!
# Problems are reported once

A problem with a credential is either returned as a failure or logged as an error, and only one of
the two.  Decoding goes on to log events above a level only if that level did not fail, and a failure
is logged only where it ends, so an attempt logs one error at most and none if it fails.
-/

namespace CloudBilling

open Json (Value)

namespace Attempt

variable {α β : Type}

/-- No error is logged in an attempt that fails, and one at most in any other. -/
structure ReportsOnce (attempt : Decoder α) : Prop where
  quiet_of_failed : ∀ failure, attempt.outcome = .error failure → errors attempt.notes = []
  length_le_one : (errors attempt.notes).length ≤ 1

/-- The attempt comes to a value, and one error is logged on the way. -/
def Reports (attempt : Decoder α) (value : α) : Prop :=
  attempt.outcome = .ok value ∧ (errors attempt.notes).length = 1

theorem reportsOnce_of_quiet {attempt : Decoder α} (quiet : errors attempt.notes = []) :
    attempt.ReportsOnce := by
  constructor
  · intro _ _
    exact quiet
  · rw [quiet]
    exact Nat.zero_le 1

theorem reportsOnce_pure (value : α) : ReportsOnce (pure value : Decoder α) :=
  reportsOnce_of_quiet rfl

theorem reportsOnce_fail (failure : Failure) : ReportsOnce (fail failure : Decoder α) :=
  reportsOnce_of_quiet rfl

/-- A problem with an outcome that was reached without an event is not followed by another one. -/
theorem reportsOnce_liftM_bind (outcome : Outcome α) {next : α → Decoder β}
    (once : ∀ value, (next value).ReportsOnce) : ReportsOnce (liftM outcome >>= next) := by
  cases outcome with
  | error failure => exact reportsOnce_fail failure
  | ok value => exact once value

/-- Nothing goes wrong after an attempt whose value is only put into something else. -/
theorem ReportsOnce.map {attempt : Decoder α} (once : attempt.ReportsOnce) (image : α → β) :
    ReportsOnce (do return image (← attempt)) := by
  cases reached : attempt.outcome with
  | error failure =>
      rw [bind_of_error _ reached]
      exact reportsOnce_of_quiet (once.quiet_of_failed failure reached)
  | ok value =>
      rw [bind_of_ok _ reached, notes_pure, List.append_nil]
      constructor
      · intro failure failed
        cases failed
      · exact once.length_le_one

theorem ReportsOnce.within {attempt : Decoder α} (once : attempt.ReportsOnce) (context : String) :
    (attempt.within context).ReportsOnce := by
  constructor
  · intro failure failed
    cases reached : attempt.outcome with
    | ok value => simp [reached] at failed
    | error inner => exact once.quiet_of_failed inner reached
  · exact once.length_le_one

theorem ReportsOnce.ite {condition : Prop} [Decidable condition] {former latter : Decoder α}
    (once : former.ReportsOnce) (otherOnce : latter.ReportsOnce) :
    ReportsOnce (if condition then former else latter) := by
  by_cases holds : condition
  · rwa [if_pos holds]
  · rwa [if_neg holds]

@[simp] theorem notes_ite {condition : Prop} [Decidable condition] (former latter : Decoder α) :
    (if condition then former else latter).notes =
      if condition then former.notes else latter.notes :=
  apply_ite notes condition former latter

theorem notes_bind_pure (attempt : Decoder α) (image : α → β) :
    (do return image (← attempt) : Decoder β).notes = attempt.notes := by
  rw [← map_eq_pure_bind, notes_map]

end Attempt

open Attempt

/-! ## Envelopes -/

namespace Envelope

variable {γ : Type} {provider : Provider} {envelope : Envelope} {entries : Dict Value}
variable {decodeTagged : String → Dict Value → Decoder γ}

/-- An envelope that should hold a credential does not: no credential has its tag, or its values do
not decode, and not because of the limit on nesting. -/
def Unusable (provider : Provider) (decodeTagged : String → Dict Value → Decoder γ)
    (envelope : Envelope) : Prop :=
  envelope.tag ≠ "" ∧ (envelope.tag ∉ provider.tags ∨
    ∃ failure, (decodeTagged envelope.tag envelope.values).outcome = .error failure ∧
      failure.cause.isNestingTooDeep = false)

/-- An envelope is read out of a value, and it is unusable. -/
def Degrades (provider : Provider) (decodeTagged : String → Dict Value → Decoder γ)
    (value : Value) : Prop :=
  ∃ entries envelope, value = .object entries ∧ isReadByTag provider entries = true ∧
    ofMap provider entries = .ok envelope ∧ envelope.Unusable provider decodeTagged

theorem reportsOnce_tolerate {attempt : Decoder γ} (once : attempt.ReportsOnce) :
    (tolerate provider attempt).ReportsOnce := by
  cases reached : attempt.outcome with
  | ok credential =>
      rw [tolerate_of_ok reached]
      constructor
      · intro failure failed
        cases failed
      · exact once.length_le_one
  | error failure =>
      have quiet := once.quiet_of_failed failure reached
      cases tooDeep : failure.cause.isNestingTooDeep with
      | true =>
          rw [tolerate_of_tooDeep reached tooDeep]
          exact reportsOnce_of_quiet quiet
      | false =>
          rw [tolerate_of_other reached tooDeep]
          constructor
          · intro reported failed
            cases failed
          · rw [errors_append, quiet]
            exact Nat.le_refl 1

/-- A failure that is tolerated is logged. -/
theorem reports_tolerate {attempt : Decoder γ} {failure : Failure} (once : attempt.ReportsOnce)
    (failed : attempt.outcome = .error failure)
    (other : failure.cause.isNestingTooDeep = false) :
    (tolerate provider attempt).Reports none := by
  rw [tolerate_of_other failed other]
  refine ⟨rfl, ?_⟩
  rw [errors_append, once.quiet_of_failed failure failed]
  rfl

theorem reportsOnce_resolve (once : ∀ tag values, (decodeTagged tag values).ReportsOnce)
    (envelope : Envelope) : (envelope.resolve provider decodeTagged).ReportsOnce := by
  by_cases empty : envelope.tag = ""
  · rw [resolve_of_empty_tag empty]
    exact reportsOnce_pure none
  · rw [resolve_of_tag empty]
    exact reportsOnce_tolerate (once envelope.tag envelope.values)

theorem reportsOnce_readTagged (once : ∀ tag values, (decodeTagged tag values).ReportsOnce)
    (entries : Dict Value) :
    ReportsOnce (do (← ofMap provider entries).resolve provider decodeTagged) :=
  reportsOnce_liftM_bind _ (reportsOnce_resolve once)

/-- An error that is logged for an envelope was logged for its values, or the envelope is
unusable. -/
theorem errors_or_unusable (reported : errors (envelope.resolve provider decodeTagged).notes ≠ []) :
    errors (decodeTagged envelope.tag envelope.values).notes ≠ [] ∨
      envelope.Unusable provider decodeTagged := by
  by_cases empty : envelope.tag = ""
  · rw [resolve_of_empty_tag empty] at reported
    exact absurd rfl reported
  · rw [resolve_of_tag empty] at reported
    cases reached : (decodeTagged envelope.tag envelope.values).outcome with
    | ok credential =>
        rw [tolerate_of_ok reached] at reported
        exact .inl reported
    | error failure =>
        cases tooDeep : failure.cause.isNestingTooDeep with
        | true =>
            rw [tolerate_of_tooDeep reached tooDeep] at reported
            exact .inl reported
        | false => exact .inr ⟨empty, .inr ⟨failure, reached, tooDeep⟩⟩

/-- An unusable envelope is logged, and leaves no credential. -/
theorem Unusable.reports (unusable : envelope.Unusable provider decodeTagged)
    (once : ∀ tag values, (decodeTagged tag values).ReportsOnce)
    (foreign : ∀ tag values, tag ∉ provider.tags →
      decodeTagged tag values = .fail (.ofCause (.unrecognizedTag tag))) :
    (envelope.resolve provider decodeTagged).Reports none := by
  obtain ⟨nonempty, unknown | ⟨failure, failed, other⟩⟩ := unusable
  · rw [resolve_of_tag nonempty, foreign _ _ unknown]
    exact reports_tolerate (reportsOnce_fail _) rfl rfl
  · rw [resolve_of_tag nonempty]
    exact reports_tolerate (once _ _) failed other

/-- Opening logs what resolving logs, or the failure of resolving. -/
theorem length_errors_open?_le_one (once : ∀ tag values, (decodeTagged tag values).ReportsOnce)
    (envelope : Envelope) :
    (errors (envelope.open? provider decodeTagged).notes).length ≤ 1 := by
  have resolved : (envelope.resolve provider decodeTagged).ReportsOnce :=
    reportsOnce_resolve once envelope
  cases reached : (envelope.resolve provider decodeTagged).outcome with
  | ok found =>
      rw [open?_of_resolve reached]
      exact resolved.length_le_one
  | error failure =>
      rw [open?, reached, errors_append, resolved.quiet_of_failed failure reached]
      exact Nat.le_refl 1

/-- Where no credential comes out of an envelope with a tag, one error is logged. -/
theorem length_errors_open?_of_none (once : ∀ tag values, (decodeTagged tag values).ReportsOnce)
    (nonempty : envelope.tag ≠ "")
    (closed : (envelope.open? provider decodeTagged).value = none) :
    (errors (envelope.open? provider decodeTagged).notes).length = 1 := by
  have inside := once envelope.tag envelope.values
  cases decoded : (decodeTagged envelope.tag envelope.values).outcome with
  | ok credential =>
      rw [value_open?_eq_some_iff.mpr ⟨nonempty, decoded⟩] at closed
      cases closed
  | error failure =>
      cases tooDeep : failure.cause.isNestingTooDeep with
      | true =>
          rw [open?, resolve_of_tag nonempty, tolerate_of_tooDeep decoded tooDeep, errors_append,
            inside.quiet_of_failed failure decoded]
          rfl
      | false =>
          have resolved : (envelope.resolve provider decodeTagged).Reports none := by
            rw [resolve_of_tag nonempty]
            exact reports_tolerate inside decoded tooDeep
          rw [open?_of_resolve resolved.1]
          exact resolved.2

end Envelope

/-! ## Credentials without nested ones -/

namespace Credential

variable {provider : Provider} {depth : UInt64} {value : Value} {entries : Dict Value}

theorem notes_decodeTagged (single : provider ≠ .aws) (tag : String) (values : Dict Value) :
    (decodeTagged provider depth tag values).notes = [] := by
  cases provider with
  | aws => exact absurd rfl single
  | azure => simp [decodeTagged, Azure.Credential.ofTagged]
  | gcp => simp [decodeTagged, Gcp.Credential.ofTagged]
  | alibaba => simp [decodeTagged, Alibaba.Credential.ofTagged]

/-- A map that is not read by its tag has no tag, or it has a key that counts before its tag. -/
theorem shape_of_untagged (untagged : Envelope.isReadByTag provider entries = false) :
    entries.has "type" = false ∨ ∃ key ∈ provider.shapeKeys, entries.has key = true := by
  cases type : entries.has "type" with
  | false => exact .inl rfl
  | true => exact .inr (by simpa [Envelope.isReadByTag, type] using untagged)

theorem notes_decodeAt_of_untagged (single : provider ≠ .aws) (within : depth.toNat ≤ maxDepth)
    (untagged : Envelope.isReadByTag provider entries = false) :
    (decodeAt provider depth (.object entries)).notes = [] := by
  have shape := shape_of_untagged untagged
  cases provider with
  | aws => exact absurd rfl single
  | azure =>
      simp only [decodeAt, Azure.Credential.decodeAt, levelsAt_of_le within]
      simp only [Provider.shapeKeys, List.mem_cons, List.not_mem_nil, or_false,
        exists_eq_or_imp, exists_eq_left] at shape
      rcases shape with noType | keyed
      · simp [Json.asMap, Value.object?, noType]
      · simp [Json.asMap, Value.object?, keyed]
  | gcp =>
      simp only [decodeAt, Gcp.Credential.decodeAt, levelsAt_of_le within]
      simp only [Provider.shapeKeys, List.mem_singleton, exists_eq_left] at shape
      rcases shape with noType | keyed
      · simp [Json.asMap, Value.object?, noType]
      · simp [Json.asMap, Value.object?, keyed]
  | alibaba =>
      simp only [decodeAt, Alibaba.Credential.decodeAt, levelsAt_of_le within]
      simp only [Provider.shapeKeys, List.mem_singleton, exists_eq_left] at shape
      rcases shape with noType | keyed
      · simp [Json.asMap, Value.object?, noType]
      · simp [Json.asMap, Value.object?, keyed]

theorem notes_decodeAt_of_not_map (single : provider ≠ .aws) (within : depth.toNat ≤ maxDepth)
    (notMap : value.object? = none) : (decodeAt provider depth value).notes = [] := by
  cases provider with
  | aws => exact absurd rfl single
  | azure | gcp | alibaba =>
      cases value with
      | object => cases notMap
      | null | bool | number | string | array =>
          simp only [decodeAt, Azure.Credential.decodeAt, Gcp.Credential.decodeAt,
            Alibaba.Credential.decodeAt, levelsAt_of_le within]
          rfl

/-- Where nothing is nested, only an envelope can be worth a note. -/
theorem exists_tagged_of_notes (single : provider ≠ .aws)
    (noted : (decodeAt provider depth value).notes ≠ []) :
    depth.toNat ≤ maxDepth ∧
      ∃ entries, value = .object entries ∧ Envelope.isReadByTag provider entries = true := by
  by_cases within : depth.toNat ≤ maxDepth
  · refine ⟨within, ?_⟩
    cases value with
    | null | bool | number | string | array =>
        exact absurd (notes_decodeAt_of_not_map single within rfl) noted
    | object entries =>
        cases tagged : Envelope.isReadByTag provider entries with
        | true => exact ⟨entries, rfl, tagged⟩
        | false => exact absurd (notes_decodeAt_of_untagged single within tagged) noted
  · rw [decodeAt_of_lt provider (Nat.lt_of_not_le within)] at noted
    exact absurd rfl noted

end Credential

end CloudBilling
