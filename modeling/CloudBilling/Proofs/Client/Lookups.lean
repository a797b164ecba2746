import CloudBilling.Client.Surroundings

/-!
# What client builders depend on

A builder learns about its surroundings in two ways only: it asks whether its caller has cancelled,
and it looks variables up, where an empty one is as good as none.  So surroundings that agree on the
cancellation, and on the variables that a builder looks up in one of them, are the same to it: it
builds the same or fails alike, in the same steps.  All ways in which builders are put together keep
to this.
-/

namespace CloudBilling.Client

namespace Observation

@[simp] theorem lookups_append (former latter : List Observation) :
    lookups (former ++ latter) = lookups former ++ lookups latter :=
  List.filterMap_append

@[simp] theorem lookups_map_lookup (names : List String) :
    lookups (names.map .lookup) = names := by
  rw [lookups, List.filterMap_map]
  exact List.filterMap_some

end Observation

/-! ## Variables -/

section Variables

variable {environment : String → Option String} {name : String} {surroundings : Surroundings}

/-- A variable is not set, or set to nothing. -/
def Unset (environment : String → Option String) (name : String) : Prop :=
  environment name = none ∨ environment name = some ""

instance : Decidable (Unset environment name) :=
  inferInstanceAs (Decidable (_ ∨ _))

/-- What the first of some variables holds that is set to something. -/
def firstSet (environment : String → Option String) (names : List String) : Option String :=
  (names.find? fun name => ¬Unset environment name).bind environment

theorem firstSet_of_unset (unset : Unset environment name) (names : List String) :
    firstSet environment (name :: names) = firstSet environment names := by
  rw [firstSet, List.find?_cons_of_neg (by simpa using unset)]
  rfl

theorem firstSet_of_set (set : ¬Unset environment name) (names : List String) :
    firstSet environment (name :: names) = environment name := by
  rw [firstSet, List.find?_cons_of_pos (by simpa using set)]
  rfl

theorem get?_eq_none_iff : surroundings.get? name = none ↔ Unset surroundings.environment name := by
  rw [Surroundings.get?, Unset]
  cases surroundings.environment name <;> simp

theorem exists_text_of_set (set : ¬Unset environment name) :
    ∃ text, environment name = some text ∧ text ≠ "" := by
  rw [Unset, not_or] at set
  obtain ⟨text, held⟩ := Option.ne_none_iff_exists'.mp set.1
  exact ⟨text, held, fun empty => set.2 (empty ▸ held)⟩

theorem get?_of_set (set : ¬Unset surroundings.environment name) :
    surroundings.get? name = surroundings.environment name := by
  obtain ⟨text, held, filled⟩ := exists_text_of_set set
  simp [Surroundings.get?, held, filled]

/-- Looking variables up until one is found finds what the first of them holds that is set. -/
theorem findSome?_get? (surroundings : Surroundings) (names : List String) :
    names.findSome? surroundings.get? = firstSet surroundings.environment names := by
  induction names with
  | nil => rfl
  | cons name names ih =>
      by_cases unset : Unset surroundings.environment name
      · rw [firstSet_of_unset unset, List.findSome?_cons, get?_eq_none_iff.mpr unset]
        exact ih
      · obtain ⟨text, held, _⟩ := exists_text_of_set unset
        rw [firstSet_of_set unset, List.findSome?_cons, get?_of_set unset, held]

end Variables

/-! ## Steps of a builder -/

open Observation

variable {α β : Type}

/-- What follows a lookup goes on with the value of the variable. -/
theorem lookup_bind (surroundings : Surroundings) (name : String)
    (next : Option String → Builder α) :
    surroundings.lookup name >>= next =
      ⟨(next (surroundings.get? name)).outcome,
        .lookup name :: (next (surroundings.get? name)).notes⟩ := rfl

section Logging

variable (condition : Prop) [Decidable condition] (level : Level) (origin : Origin)
variable (message : String) (next : Builder α)

/-- An event that may be logged on the way changes nothing about what is built. -/
theorem outcome_log_if :
    (if condition then do Builder.log level origin message; next else next).outcome =
      next.outcome := by
  split <;> rfl

theorem lookups_log_if :
    lookups (if condition then do Builder.log level origin message; next else next).notes =
      lookups next.notes := by
  split <;> rfl

end Logging

/-! ## Surroundings that look alike -/

/-- Surroundings that a builder cannot tell apart by the variables with these names: each is set to
the same in both, or unset in both. -/
structure AgreeOn (names : List String) (left right : Surroundings) : Prop where
  cancelled : left.cancelled = right.cancelled
  held : ∀ name ∈ names, left.environment name = right.environment name ∨
    Unset left.environment name ∧ Unset right.environment name

theorem AgreeOn.get?_eq {names : List String} {left right : Surroundings} {name : String}
    (agree : AgreeOn names left right) (member : name ∈ names) :
    left.get? name = right.get? name := by
  rcases agree.held name member with same | ⟨unset, unsetToo⟩
  · rw [Surroundings.get?, Surroundings.get?, same]
  · rw [get?_eq_none_iff.mpr unset, get?_eq_none_iff.mpr unsetToo]

theorem AgreeOn.of_append {former latter : List String} {left right : Surroundings}
    (agree : AgreeOn (former ++ latter) left right) :
    AgreeOn former left right ∧ AgreeOn latter left right := by
  constructor
  · exact ⟨agree.cancelled, fun name member =>
      agree.held name (List.mem_append_left latter member)⟩
  · exact ⟨agree.cancelled, fun name member =>
      agree.held name (List.mem_append_right former member)⟩

/-- What is built, and how, depends on nothing but the cancellation and the variables that are
looked up. -/
def Guided (build : Surroundings → Builder α) : Prop :=
  ∀ left right, AgreeOn (lookups (build left).notes) left right → build left = build right

theorem guided_const (built : Builder α) : Guided fun _ => built :=
  fun _ _ _ => rfl

theorem guided_check : Guided fun surroundings => (liftM surroundings.check : Builder Unit) := by
  intro left right agree
  simp only [Surroundings.check, agree.cancelled]

theorem guided_lookup (name : String) : Guided fun surroundings => surroundings.lookup name := by
  intro left right agree
  have same : left.get? name = right.get? name := agree.get?_eq List.mem_cons_self
  simp only [Surroundings.lookup, same]

theorem Guided.within {build : Surroundings → Builder α} (guided : Guided build)
    (context : String) : Guided fun surroundings => (build surroundings).within context := by
  intro left right agree
  exact congrArg (Attempt.within context) (guided left right agree)

theorem Guided.bind {former : Surroundings → Builder α} {next : Surroundings → α → Builder β}
    (guided : Guided former) (nextGuided : ∀ value, Guided fun surroundings =>
      next surroundings value) :
    Guided fun surroundings => former surroundings >>= next surroundings := by
  intro left right agree
  change former left >>= next left = former right >>= next right
  cases reached : (former left).outcome with
  | error failure =>
      have whole := Attempt.bind_of_error (next left) reached
      simp only [whole] at agree
      have same : former left = former right := guided left right agree
      rw [whole, Attempt.bind_of_error (next right) (same ▸ reached), same]
  | ok value =>
      have whole := Attempt.bind_of_ok (next left) reached
      simp only [whole, lookups_append] at agree
      obtain ⟨before, after⟩ := agree.of_append
      have same : former left = former right := guided left right before
      have sameNext : next left value = next right value := nextGuided value left right after
      rw [whole, Attempt.bind_of_ok (next right) (same ▸ reached), same, sameNext]

end CloudBilling.Client
