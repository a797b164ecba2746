import CloudBilling.Json.Field

/-!
# What reading a field comes to

A field is read exactly when its key holds a value of the wanted shape, and a field that may be
absent fails exactly when it holds one of another shape.  A decoder that only reads fields can fail
in many ways, but never because credentials nest too deep; that is what lets the limit on nesting be
told apart from every other failure.
-/

namespace CloudBilling

namespace Outcome

variable {α β : Type}

/-- The outcome is not a failure of the limit on nesting. -/
def WithinLimit (outcome : Outcome α) : Prop :=
  ∀ failure, outcome = .error failure → failure.cause.isNestingTooDeep = false

theorem withinLimit_ok (value : α) : WithinLimit (.ok value : Outcome α) := by
  intro failure failed
  cases failed

theorem withinLimit_error {failure : Failure}
    (other : failure.cause.isNestingTooDeep = false) :
    WithinLimit (.error failure : Outcome α) := by
  intro reported failed
  cases failed
  exact other

theorem WithinLimit.within {outcome : Outcome α} (limited : outcome.WithinLimit)
    (context : String) : (outcome.within context).WithinLimit := by
  cases outcome with
  | ok value => exact withinLimit_ok value
  | error failure => exact withinLimit_error (limited failure rfl)

theorem WithinLimit.bind {outcome : Outcome α} {next : α → Outcome β}
    (limited : outcome.WithinLimit) (nextLimited : ∀ value, (next value).WithinLimit) :
    (outcome >>= next).WithinLimit := by
  cases outcome with
  | ok value => exact nextLimited value
  | error failure => exact withinLimit_error (limited failure rfl)

theorem WithinLimit.map {outcome : Outcome α} (limited : outcome.WithinLimit) (image : α → β) :
    WithinLimit (outcome.map image) := by
  cases outcome with
  | ok value => exact withinLimit_ok (image value)
  | error failure => exact withinLimit_error (limited failure rfl)

end Outcome

namespace Json

variable {α : Type} {entries : Dict Value} {key text : String}

theorem Value.object?_eq_some_iff {value : Value} :
    value.object? = some entries ↔ value = .object entries := by
  cases value <;> simp [object?]

/-- The value under a key, unless it is null. -/
def present? (entries : Dict Value) (key : String) : Option Value :=
  match entries.get? key with
  | some .null => none
  | found => found

theorem present?_eq_some_iff {value : Value} :
    present? entries key = some value ↔ entries.get? key = some value ∧ value ≠ .null := by
  unfold present?
  split
  · next found =>
      rw [found]
      constructor
      · intro impossible
        cases impossible
      · rintro ⟨same, present⟩
        exact absurd (Option.some.inj same).symm present
  · next notNull =>
      constructor
      · intro found
        refine ⟨found, ?_⟩
        rintro rfl
        exact notNull found
      · exact fun found => found.1

theorem present?_eq_none_iff :
    present? entries key = none ↔ entries.get? key = none ∨ entries.get? key = some .null := by
  unfold present?
  split
  · next found => simp [found]
  · next notNull =>
      constructor
      · exact .inl
      · rintro (absent | null)
        · exact absent
        · exact (notNull null).elim

/-- A change of what stands under a key changes the value there, as long as null stays null and
nothing else becomes null. -/
theorem present?_eq_map {left right : Dict Value} {change : Value → Value}
    (changed : right.get? key = (left.get? key).map change)
    (nulls : ∀ value, left.get? key = some value → (change value = .null ↔ value = .null)) :
    present? right key = (present? left key).map change := by
  cases present : present? left key with
  | none =>
      rw [Option.map_none, present?_eq_none_iff, changed]
      rcases present?_eq_none_iff.mp present with absent | null
      · exact .inl (by rw [absent, Option.map_none])
      · exact .inr (by rw [null, Option.map_some, (nulls .null null).mpr rfl])
  | some value =>
      obtain ⟨found, notNull⟩ := present?_eq_some_iff.mp present
      rw [Option.map_some, present?_eq_some_iff, changed, found]
      exact ⟨rfl, mt (nulls value found).mp notNull⟩

theorem optionalField_eq (shape : Shape α) :
    optionalField shape entries key =
      match present? entries key with
      | none => .ok none
      | some _ => (field shape entries key).map some := by
  unfold optionalField present?
  cases found : entries.get? key with
  | none => rfl
  | some value => cases value <;> rfl

@[simp] theorem optionalField_any :
    optionalField .any entries key = .ok (present? entries key) := by
  rw [optionalField_eq]
  cases present : present? entries key with
  | none => rfl
  | some value =>
      obtain ⟨found, _⟩ := present?_eq_some_iff.mp present
      simp [field, found, Shape.any, Except.map]

theorem field_string_eq_ok_iff :
    field .string entries key = .ok text ↔ entries.get? key = some (.string text) := by
  unfold field
  cases entries.get? key with
  | none => simp [Outcome.fail]
  | some value => cases value <;> simp [Shape.string, Value.string?, Outcome.fail]

theorem field_map_eq_ok_iff {content : Dict Value} :
    field .map entries key = .ok content ↔ entries.get? key = some (.object content) := by
  unfold field
  cases entries.get? key with
  | none => simp [Outcome.fail]
  | some value => cases value <;> simp [Shape.map, Value.object?, Outcome.fail]

/-- A text that may be left out is read where it is written, even if it is empty. -/
theorem stringOrEmpty_of_string (found : entries.get? key = some (.string text)) :
    stringOrEmpty entries key = .ok text := by
  have present : present? entries key = some (.string text) :=
    present?_eq_some_iff.mpr ⟨found, by simp⟩
  rw [stringOrEmpty, optionalField_eq, present, field_string_eq_ok_iff.mpr found]
  rfl

/-! ## Fields that may be absent -/

/-- A field is absent, null, or in the shape that it is asked for. -/
def Fits (shape : Shape α) (entries : Dict Value) (key : String) : Prop :=
  ∀ value, entries.get? key = some value → value = .null ∨ (shape.view value).isSome = true

/-- Why a field that does not fit cannot be read. -/
def misfit? (shape : Shape α) (entries : Dict Value) (key : String) : Option Cause :=
  match present? entries key with
  | none => none
  | some value =>
      if (shape.view value).isSome then none
      else some (.typeMismatch key shape.name value.kind)

theorem misfit?_eq_none_iff (shape : Shape α) :
    misfit? shape entries key = none ↔ Fits shape entries key := by
  rw [misfit?, Fits]
  cases present : present? entries key with
  | none =>
      rcases present?_eq_none_iff.mp present with absent | null
      · simp [absent]
      · simp [null]
  | some value =>
      obtain ⟨found, notNull⟩ := present?_eq_some_iff.mp present
      simp [found, notNull, Option.isSome_iff_ne_none]

/-- A field that fits is read as far as it is there, and any other one fails. -/
theorem optionalField_eq_of_misfit? (shape : Shape α) :
    optionalField shape entries key =
      match misfit? shape entries key with
      | some cause => .fail cause
      | none => .ok ((present? entries key).bind shape.view) := by
  rw [optionalField_eq, misfit?]
  cases present : present? entries key with
  | none => rfl
  | some value =>
      obtain ⟨found, _⟩ := present?_eq_some_iff.mp present
      rw [field, found]
      cases viewed : shape.view value with
      | none => simp [viewed, Outcome.fail, Except.map]
      | some content => simp [viewed, Except.map]

/-! ## The limit on nesting -/

theorem withinLimit_field (shape : Shape α) (entries : Dict Value) (key : String) :
    (field shape entries key).WithinLimit := by
  unfold field
  split
  · exact Outcome.withinLimit_error rfl
  · split
    · exact Outcome.withinLimit_ok _
    · exact Outcome.withinLimit_error rfl

theorem withinLimit_optionalField (shape : Shape α) (entries : Dict Value) (key : String) :
    (optionalField shape entries key).WithinLimit := by
  rw [optionalField_eq]
  split
  · exact Outcome.withinLimit_ok _
  · exact (withinLimit_field shape entries key).map some

end Json

end CloudBilling
