import CloudBilling.Json.Value

/-!
# Failures

A failure is a cause together with the names of the types that were being handled when it
arose, outermost first. The text of a failure is the names and the text of the cause, joined
by a colon and a space.
-/

namespace CloudBilling

/-- What is wrong with a JSON text: it is malformed, or its value does not fit the type that is
read from it. -/
inductive Json.Fault where
  | malformed
  | unfit (message : String)
  deriving DecidableEq, Repr

/-- The text of a fault. -/
def Json.Fault.message : Json.Fault → String
  | .malformed => "malformed JSON text"
  | .unfit message => message

/-- The causes of failure. -/
inductive Cause where
  /-- A required key is absent from a document. -/
  | missingKey (key : String)
  /-- A required field is present but empty. -/
  | missingField (field : String)
  /-- A key holds a value of the wrong shape. -/
  | typeMismatch (key expected found : String)
  /-- A map was wanted. -/
  | notMap (found : String)
  /-- No rule matches the keys of a map. -/
  | unrecognizedShape
  /-- No credential of the provider has this tag. -/
  | unrecognizedTag (tag : String)
  /-- Credentials nest deeper than the limit. -/
  | nestingTooDeep (limit : Nat)
  /-- The caller cancelled, or the deadline passed. -/
  | cancelled
  /-- Another component failed; `source` is that component's own text. -/
  | delegated (message : String) (source : Option String)
  /-- A JSON text could not be used. -/
  | json (fault : Json.Fault)
  deriving DecidableEq, Repr

namespace Cause

/-- The text of a cause. -/
def message : Cause → String
  | .missingKey key => s!"missing '{key}' property"
  | .missingField field => s!"missing {field}"
  | .typeMismatch key expected found =>
      s!"property '{key}' had expected type '{expected}' but found '{found}'"
  | .notMap found => s!"could not cast interface as map, found '{found}'"
  | .unrecognizedShape => "interface is not a valid configurer format"
  | .unrecognizedTag tag => s!"invalid type: '{tag}'"
  | .nestingTooDeep limit => s!"configurer nesting exceeds the maximum depth of {limit}"
  | .cancelled => "operation was cancelled"
  | .delegated message _ => message
  | .json fault => s!"json error: {fault.message}"

/-- The texts of what a cause itself was caused by. -/
def sources : Cause → List String
  | .delegated _ source => source.toList
  | .json fault => [fault.message]
  | _ => []

/-- Whether the cause is the limit on nesting. -/
def isNestingTooDeep : Cause → Bool
  | .nestingTooDeep _ => true
  | _ => false

/-- Whether the cause is a tag that no credential has. -/
def isUnrecognizedTag : Cause → Bool
  | .unrecognizedTag _ => true
  | _ => false

end Cause

/-- A cause and the contexts around it, outermost first. -/
structure Failure where
  contexts : List String
  cause : Cause
  deriving DecidableEq, Repr

namespace Failure

/-- A cause with no context. -/
def ofCause (cause : Cause) : Failure :=
  ⟨[], cause⟩

/-- An empty field of a type. -/
def missingField (typeName field : String) : Failure :=
  ⟨[typeName], .missingField field⟩

/-- Put a context around a failure. -/
def within (failure : Failure) (context : String) : Failure :=
  { failure with contexts := context :: failure.contexts }

/-- Put contexts around a failure, the first of them innermost. -/
def withinAll (failure : Failure) (contexts : List String) : Failure :=
  contexts.foldl within failure

/-- What is left of a cause inside contexts when the contexts are skipped. -/
def rootOf (cause : Cause) : List String → Failure
  | [] => ofCause cause
  | _ :: contexts => rootOf cause contexts

/-- The innermost failure. -/
def root (failure : Failure) : Failure :=
  rootOf failure.cause failure.contexts

/-- The text of a cause inside contexts. -/
def messageOf (cause : Cause) : List String → String
  | [] => cause.message
  | context :: contexts => context ++ ": " ++ messageOf cause contexts

/-- The whole text of a failure. -/
def message (failure : Failure) : String :=
  messageOf failure.cause failure.contexts

/-- The texts of the failures inside contexts, outermost first, and of what they came from. -/
def sourcesOf (cause : Cause) : List String → List String
  | [] => cause.sources
  | _ :: contexts => messageOf cause contexts :: sourcesOf cause contexts

/-- The texts of the chain of causes below the outermost failure. -/
def sources (failure : Failure) : List String :=
  sourcesOf failure.cause failure.contexts

@[simp] theorem contexts_within (failure : Failure) (context : String) :
    (failure.within context).contexts = context :: failure.contexts := rfl

@[simp] theorem cause_within (failure : Failure) (context : String) :
    (failure.within context).cause = failure.cause := rfl

@[simp] theorem root_within (failure : Failure) (context : String) :
    (failure.within context).root = failure.root := rfl

@[simp] theorem message_within (failure : Failure) (context : String) :
    (failure.within context).message = context ++ ": " ++ failure.message := rfl

end Failure

/-- The outcome of something that can fail. -/
abbrev Outcome (α : Type) := Except Failure α

namespace Outcome

/-- Fail for a cause, with no context yet. -/
def fail {α : Type} (cause : Cause) : Outcome α :=
  .error (.ofCause cause)

/-- Put a context around a failure; a success stays as it is. -/
def within {α : Type} (context : String) : Outcome α → Outcome α
  | .ok value => .ok value
  | .error failure => .error (failure.within context)

/-- Put contexts around a failure, the first of them innermost; a success stays as it is. -/
def withinAll {α : Type} (contexts : List String) (outcome : Outcome α) : Outcome α :=
  contexts.foldl (fun reached context => within context reached) outcome

@[simp] theorem within_ok {α : Type} (context : String) (value : α) :
    within context (.ok value) = .ok value := rfl

@[simp] theorem within_error {α : Type} (context : String) (failure : Failure) :
    within (α := α) context (.error failure) = .error (failure.within context) := rfl

end Outcome

/-- A required field of a type holds something. -/
def requireField (typeName field value : String) : Outcome Unit :=
  if value = "" then .error (.missingField typeName field) else .ok ()

end CloudBilling
