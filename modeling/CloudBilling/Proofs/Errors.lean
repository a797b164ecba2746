import CloudBilling.Proofs.Envelope

/-!
# Errors that are only logged

Opening an envelope gives no credential both when its tag is empty and when its values do not
decode; in the second case an error is logged.  So an envelope that is resolved without an error has
an empty tag, or a credential that its values decode to.
-/

namespace CloudBilling

/-- The events that report an error. -/
def errors (events : List Event) : List Event :=
  events.filter fun event => event.level = .error

@[simp] theorem errors_nil : errors [] = [] := rfl

@[simp] theorem errors_append (former latter : List Event) :
    errors (former ++ latter) = errors former ++ errors latter :=
  List.filter_append ..

namespace Attempt

variable {α β : Type}

/-- The attempt comes to a value, and no error is logged on the way. -/
def Yields (attempt : Decoder α) (value : α) : Prop :=
  attempt.outcome = .ok value ∧ errors attempt.notes = []

theorem yields_pure (value : α) : Yields (pure value) value :=
  ⟨rfl, rfl⟩

theorem yields_bind_iff {former : Decoder α} {next : α → Decoder β} {result : β} :
    (former >>= next).Yields result ↔
      ∃ value, former.Yields value ∧ (next value).Yields result := by
  cases reached : former.outcome with
  | error failure => simp [Yields, bind_of_error next reached, reached]
  | ok value =>
      simp only [Yields, bind_of_ok next reached, reached, errors_append, List.append_eq_nil_iff,
        Except.ok.injEq, and_assoc, exists_eq_left']
      exact and_left_comm

theorem yields_within_iff {attempt : Decoder α} {context : String} {value : α} :
    (attempt.within context).Yields value ↔ attempt.Yields value := by
  cases reached : attempt.outcome <;> simp [Yields, reached]

end Attempt

namespace Envelope

variable {γ : Type} {provider : Provider} {envelope : Envelope} {attempt : Decoder γ}
variable {decodeTagged : String → Dict Json.Value → Decoder γ} {found : Option γ}

/-- What is tolerated without an error is a credential. -/
theorem yields_tolerate_iff :
    (tolerate provider attempt).Yields found ↔
      ∃ credential, found = some credential ∧ attempt.Yields credential := by
  cases decoded : attempt.outcome with
  | ok credential =>
      simp only [Attempt.Yields, tolerate_of_ok decoded, decoded, Except.ok.injEq]
      constructor
      · rintro ⟨rfl, quiet⟩
        exact ⟨credential, rfl, rfl, quiet⟩
      · rintro ⟨_, rfl, rfl, quiet⟩
        exact ⟨rfl, quiet⟩
  | error failure =>
      cases tooDeep : failure.cause.isNestingTooDeep with
      | true => simp [Attempt.Yields, tolerate_of_tooDeep decoded tooDeep, decoded]
      | false => simp [Attempt.Yields, tolerate_of_other decoded tooDeep, decoded, errors]

/-- An envelope that is resolved is opened to the same, with the same events. -/
theorem open?_of_resolve
    (reached : (envelope.resolve provider decodeTagged).outcome = .ok found) :
    envelope.open? provider decodeTagged =
      ⟨found, (envelope.resolve provider decodeTagged).notes⟩ := by
  simp [open?, reached]

end Envelope

end CloudBilling
