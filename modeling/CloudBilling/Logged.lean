import CloudBilling.Failure

/-!
# Computations that keep a record

`Logged` is a value with the notes that were taken while it was computed; `Attempt` is the same
for something that can fail, and keeps the notes that were taken before a failure. Both are
monads in which notes appear in the order in which they were taken. The notes of decoders are
log events.
-/

namespace CloudBilling

/-- How serious a log event is. -/
inductive Level where
  | error
  | warn
  | info
  | debug
  | trace
  deriving DecidableEq, Repr

namespace Level

/-- The name of a level in log lines. -/
def name : Level → String
  | .error => "ERROR"
  | .warn => "WARN"
  | .info => "INFO"
  | .debug => "DEBUG"
  | .trace => "TRACE"

/-- Levels from the most serious, 1, to the least serious, 5. -/
def verbosity : Level → Nat
  | .error => 1
  | .warn => 2
  | .info => 3
  | .debug => 4
  | .trace => 5

end Level

/-- The parts of the program that log. -/
inductive Origin where
  | aws
  | gcp
  | envelope
  | document
  | program
  deriving DecidableEq, Repr

/-- The name under which log filters and log files know a part of the program. -/
def Origin.target : Origin → String
  | .aws => "cloud_configurer::cloud::aws"
  | .gcp => "cloud_configurer::cloud::gcp"
  | .envelope => "cloud_configurer::cloud::dto"
  | .document => "cloud_configurer::cloud::integration"
  | .program => "cloud_configurer"

/-- A log event. -/
structure Event where
  level : Level
  origin : Origin
  message : String
  deriving DecidableEq, Repr

/-- A value and the notes taken while it was computed. -/
structure Logged (ω α : Type) where
  value : α
  notes : List ω
  deriving DecidableEq, Repr

/-- An outcome and the notes taken on the way to it. -/
structure Attempt (ω α : Type) where
  outcome : Outcome α
  notes : List ω

namespace Logged

variable {ω α β : Type}

instance : Monad (Logged ω) where
  pure value := ⟨value, []⟩
  bind former next :=
    let latter := next former.value
    ⟨latter.value, former.notes ++ latter.notes⟩

instance : LawfulMonad (Logged ω) := LawfulMonad.mk' (Logged ω)
  (by intro α x; simp [Functor.map])
  (by intro α β x f; simp [bind, pure])
  (by intro α β γ x f g; simp [bind])

/-- Take a note. -/
def note (entry : ω) : Logged ω Unit :=
  ⟨(), [entry]⟩

@[simp] theorem value_pure (value : α) : (pure value : Logged ω α).value = value := rfl

@[simp] theorem notes_pure (value : α) : (pure value : Logged ω α).notes = [] := rfl

@[simp] theorem value_bind (former : Logged ω α) (next : α → Logged ω β) :
    (former >>= next).value = (next former.value).value := rfl

theorem mk_bind (value : α) (notes : List ω) (next : α → Logged ω β) :
    (⟨value, notes⟩ : Logged ω α) >>= next =
      ⟨(next value).value, notes ++ (next value).notes⟩ := rfl

theorem map_mk (image : α → β) (value : α) (notes : List ω) :
    image <$> (⟨value, notes⟩ : Logged ω α) = ⟨image value, notes⟩ :=
  congrArg (Logged.mk (image value)) (List.append_nil notes)

@[simp] theorem notes_bind (former : Logged ω α) (next : α → Logged ω β) :
    (former >>= next).notes = former.notes ++ (next former.value).notes := rfl

@[simp] theorem value_map (image : α → β) (logged : Logged ω α) :
    (image <$> logged).value = image logged.value := rfl

@[simp] theorem notes_map (image : α → β) (logged : Logged ω α) :
    (image <$> logged).notes = logged.notes :=
  List.append_nil logged.notes

end Logged

namespace Attempt

variable {ω α β : Type}

/-- Go on with the value of a success; a failure ends the attempt. -/
def andThen (former : Attempt ω α) (next : α → Attempt ω β) : Attempt ω β :=
  match former.outcome with
  | .ok value =>
      let latter := next value
      ⟨latter.outcome, former.notes ++ latter.notes⟩
  | .error failure => ⟨.error failure, former.notes⟩

instance : Monad (Attempt ω) where
  pure value := ⟨.ok value, []⟩
  bind := andThen

@[simp] theorem outcome_pure (value : α) : (pure value : Attempt ω α).outcome = .ok value := rfl

@[simp] theorem notes_pure (value : α) : (pure value : Attempt ω α).notes = [] := rfl

theorem bind_of_ok {former : Attempt ω α} {value : α} (next : α → Attempt ω β)
    (success : former.outcome = .ok value) :
    former >>= next = ⟨(next value).outcome, former.notes ++ (next value).notes⟩ := by
  simp [bind, andThen, success]

theorem bind_of_error {former : Attempt ω α} {failure : Failure} (next : α → Attempt ω β)
    (failed : former.outcome = .error failure) :
    former >>= next = ⟨.error failure, former.notes⟩ := by
  simp [bind, andThen, failed]

instance : LawfulMonad (Attempt ω) := LawfulMonad.mk' (Attempt ω)
  (by
    intro α x
    obtain ⟨outcome, notes⟩ := x
    cases outcome <;> simp [Functor.map, andThen])
  (by intro α β x f; simp [bind, andThen, pure])
  (by
    intro α β γ x f g
    obtain ⟨outcome, notes⟩ := x
    cases outcome with
    | error failure => simp [bind, andThen]
    | ok value =>
        simp only [bind, andThen]
        cases (f value).outcome <;> simp)

/-- An outcome that was reached without taking notes. -/
def ofOutcome (outcome : Outcome α) : Attempt ω α :=
  ⟨outcome, []⟩

instance : MonadLift (Except Failure) (Attempt ω) where
  monadLift := ofOutcome

/-- A computation that cannot fail, as an attempt. -/
def ofLogged (logged : Logged ω α) : Attempt ω α :=
  ⟨.ok logged.value, logged.notes⟩

instance : MonadLift (Logged ω) (Attempt ω) where
  monadLift := ofLogged

/-- Fail with a failure. -/
def fail (failure : Failure) : Attempt ω α :=
  ⟨.error failure, []⟩

/-- Take a note. -/
def note (entry : ω) : Attempt ω Unit :=
  ⟨.ok (), [entry]⟩

/-- Put a context around the failure of an attempt. -/
def within (context : String) (attempt : Attempt ω α) : Attempt ω α :=
  ⟨attempt.outcome.within context, attempt.notes⟩

/-- The outcome as a value, so that a failure can be handled. -/
def settle (attempt : Attempt ω α) : Logged ω (Outcome α) :=
  ⟨attempt.outcome, attempt.notes⟩

@[simp] theorem outcome_within (context : String) (attempt : Attempt ω α) :
    (attempt.within context).outcome = attempt.outcome.within context := rfl

@[simp] theorem notes_within (context : String) (attempt : Attempt ω α) :
    (attempt.within context).notes = attempt.notes := rfl

theorem outcome_bind (former : Attempt ω α) (next : α → Attempt ω β) :
    (former >>= next).outcome = former.outcome.bind fun value => (next value).outcome := by
  cases reached : former.outcome with
  | ok value =>
      rw [bind_of_ok next reached]
      rfl
  | error failure =>
      rw [bind_of_error next reached]
      rfl

@[simp] theorem outcome_fail (failure : Failure) :
    (fail failure : Attempt ω α).outcome = .error failure := rfl

@[simp] theorem liftM_ok (value : α) :
    (liftM (Except.ok value : Outcome α) : Attempt ω α) = pure value := rfl

@[simp] theorem liftM_error (failure : Failure) :
    (liftM (Except.error failure : Outcome α) : Attempt ω α) = fail failure := rfl

@[simp] theorem notes_fail (failure : Failure) :
    (fail failure : Attempt ω α).notes = [] := rfl

@[simp] theorem outcome_liftM (outcome : Outcome α) :
    (liftM outcome : Attempt ω α).outcome = outcome := rfl

@[simp] theorem notes_liftM (outcome : Outcome α) :
    (liftM outcome : Attempt ω α).notes = [] := rfl

@[simp] theorem fail_bind (failure : Failure) (next : α → Attempt ω β) :
    (fail failure : Attempt ω α) >>= next = fail failure := rfl

@[simp] theorem map_ok (image : α → β) (value : α) (notes : List ω) :
    image <$> (⟨.ok value, notes⟩ : Attempt ω α) = ⟨.ok (image value), notes⟩ := by
  simp [Functor.map, andThen]

@[simp] theorem outcome_map (image : α → β) (attempt : Attempt ω α) :
    (image <$> attempt).outcome = attempt.outcome.map image := by
  obtain ⟨outcome, notes⟩ := attempt
  cases outcome <;> rfl

@[simp] theorem notes_map (image : α → β) (attempt : Attempt ω α) :
    (image <$> attempt).notes = attempt.notes := by
  obtain ⟨outcome, notes⟩ := attempt
  cases outcome <;> simp [Functor.map, andThen]

theorem map_within (image : α → β) (context : String) (attempt : Attempt ω α) :
    image <$> attempt.within context = (image <$> attempt).within context := by
  obtain ⟨outcome, notes⟩ := attempt
  cases outcome <;> simp [within, Functor.map, andThen]

@[simp] theorem within_pure (context : String) (value : α) :
    within context (pure value : Attempt ω α) = pure value := rfl

@[simp] theorem within_fail (context : String) (failure : Failure) :
    within context (fail failure : Attempt ω α) = fail (failure.within context) := rfl

end Attempt

/-- Reads an untyped value; its notes are log events. -/
abbrev Decoder (α : Type) := Attempt Event α

/-- Note a log event. -/
def logEvent (level : Level) (origin : Origin) (message : String) : Logged Event Unit :=
  .note ⟨level, origin, message⟩

end CloudBilling
