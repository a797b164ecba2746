import CloudBilling.Logged

/-!
# What client builders see of the outside

A builder can ask whether its caller has cancelled, and can look up environment variables.
Everything else it does is a matter of its arguments. The notes of a builder are its lookups
and its log events, in order.
-/

namespace CloudBilling.Client

/-- The outside as a builder finds it; it does not change while the builder runs. -/
structure Surroundings where
  cancelled : Bool
  environment : String → Option String

/-- What a builder did besides computing. -/
inductive Observation where
  /-- It asked for an environment variable. -/
  | lookup (name : String)
  /-- It logged. -/
  | logged (event : Event)
  deriving DecidableEq, Repr

/-- A computation of a builder. -/
abbrev Builder (α : Type) := Attempt Observation α

namespace Observation

/-- The variables that were asked for, in order. -/
def lookups (notes : List Observation) : List String :=
  notes.filterMap fun
    | .lookup name => some name
    | .logged _ => none

/-- The events that were logged, in order. -/
def events (notes : List Observation) : List Event :=
  notes.filterMap fun
    | .lookup _ => none
    | .logged event => some event

end Observation

namespace Surroundings

/-- The value of a variable; an empty value counts as unset. -/
def get? (surroundings : Surroundings) (name : String) : Option String :=
  (surroundings.environment name).filter (· ≠ "")

/-- Look a variable up. -/
def lookup (surroundings : Surroundings) (name : String) : Builder (Option String) :=
  ⟨.ok (surroundings.get? name), [.lookup name]⟩

/-- Fail once the caller has cancelled. -/
def check (surroundings : Surroundings) : Outcome Unit :=
  if surroundings.cancelled then .fail .cancelled else .ok ()

theorem check_eq_ok_iff {surroundings : Surroundings} :
    surroundings.check = .ok () ↔ surroundings.cancelled = false := by
  cases cancelled : surroundings.cancelled <;> simp [check, cancelled, Outcome.fail]

end Surroundings

/-- Log from within a builder. -/
def Builder.log (level : Level) (origin : Origin) (message : String) : Builder Unit :=
  .note (.logged ⟨level, origin, message⟩)

end CloudBilling.Client
