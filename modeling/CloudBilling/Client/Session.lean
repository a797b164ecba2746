import CloudBilling.Client.Surroundings
import CloudBilling.Inspect

/-!
# Contexts of client builders

A context carries what a caller sets for a builder: a deadline, an environment, and membership
in a family of contexts that are cancelled together. A context made from another stays in its
family, whatever else is changed about it; a handle cancels the whole family, and nothing
undoes that. A session is what a history of such operations has made.
-/

namespace CloudBilling.Client

/-- What a caller sets for a builder. -/
structure Context where
  /-- Contexts with one number are cancelled together. -/
  family : Nat
  /-- The second at which the context counts as cancelled. -/
  deadline : Option Nat
  environment : String → Option String

/-- The contexts and handles that were made so far, in order, and the families that were
cancelled. -/
structure Session where
  contexts : List Context
  /-- The family that each handle cancels. -/
  handles : List Nat
  cancelled : List Nat
  /-- The number of the next family. -/
  nextFamily : Nat
  /-- The second it is now. -/
  now : Nat

namespace Session

/-- A session in which nothing was made yet. -/
def blank : Session where
  contexts := []
  handles := []
  cancelled := []
  nextFamily := 0
  now := 0

/-- Make a context of a family of its own, without a deadline. -/
def create (session : Session) (environment : String → Option String) : Session :=
  { session with
    contexts := session.contexts ++ [⟨session.nextFamily, none, environment⟩]
    nextFamily := session.nextFamily + 1 }

/-- Make a context of a family of its own, with an empty environment. -/
def fresh (session : Session) : Session :=
  session.create fun _ => none

/-- A session with one context, which has no deadline and an empty environment. -/
def start : Session :=
  blank.fresh

/-- Make a context from another one, in the same family. -/
def derive (session : Session) (parent : Nat) (change : Context → Context) : Option Session := do
  let context ← session.contexts[parent]?
  return { session with
    contexts := session.contexts ++ [{ change context with family := context.family }] }

/-- Make a copy of a context. -/
def clone (session : Session) (parent : Nat) : Option Session :=
  session.derive parent id

/-- Make a copy of a context with another environment. -/
def withEnvironment (session : Session) (parent : Nat) (environment : String → Option String) :
    Option Session :=
  session.derive parent fun context => { context with environment }

/-- Make a copy of a context with another deadline. -/
def withDeadline (session : Session) (parent deadline : Nat) : Option Session :=
  session.derive parent fun context => { context with deadline := some deadline }

/-- Make a copy of a context with a deadline some seconds ahead. -/
def withTimeout (session : Session) (parent seconds : Nat) : Option Session :=
  session.withDeadline parent (session.now + seconds)

/-- Make a handle that cancels the family of a context. -/
def handle (session : Session) (owner : Nat) : Option Session := do
  let context ← session.contexts[owner]?
  return { session with handles := session.handles ++ [context.family] }

/-- Cancel the family of a handle. -/
def cancel (session : Session) (handle : Nat) : Option Session := do
  let family ← session.handles[handle]?
  return { session with cancelled := family :: session.cancelled }

/-- Let some seconds pass. -/
def wait (session : Session) (seconds : Nat) : Session :=
  { session with now := session.now + seconds }

/-- Whether the family of a context has been cancelled. -/
def isFlagged (session : Session) (context : Context) : Bool :=
  session.cancelled.contains context.family

/-- Whether a context is cancelled: its family was, or its deadline is over. -/
def isCancelled (session : Session) (context : Context) : Bool :=
  session.isFlagged context || context.deadline.any (· ≤ session.now)

/-- The outside as a builder with a context finds it. -/
def surroundings (session : Session) (context : Context) : Surroundings where
  cancelled := session.isCancelled context
  environment := context.environment

/-- The inspection text of a context. -/
def inspect (session : Session) (context : Context) : String :=
  Inspect.openRecord "ClientContext"
    [("cancelled", Inspect.flag (session.isFlagged context)),
     ("deadline", Inspect.optional (context.deadline.map toString))]

end Session

/-- What can be done in a session. Contexts and handles are known by their positions. -/
inductive Operation where
  | create (environment : String → Option String)
  | clone (parent : Nat)
  | withEnvironment (parent : Nat) (environment : String → Option String)
  | withDeadline (parent deadline : Nat)
  | withTimeout (parent seconds : Nat)
  | handle (owner : Nat)
  | cancel (handle : Nat)
  | wait (seconds : Nat)

namespace Session

/-- Do what an operation says; nothing can be done with a context or handle that is not there. -/
def apply (session : Session) : Operation → Option Session
  | .create environment => some (session.create environment)
  | .clone parent => session.clone parent
  | .withEnvironment parent environment => session.withEnvironment parent environment
  | .withDeadline parent deadline => session.withDeadline parent deadline
  | .withTimeout parent seconds => session.withTimeout parent seconds
  | .handle owner => session.handle owner
  | .cancel handle => session.cancel handle
  | .wait seconds => some (session.wait seconds)

/-- Do what a list of operations says, one after the other. -/
def run (session : Session) : List Operation → Option Session
  | [] => some session
  | operation :: rest => do (← session.apply operation).run rest

end Session

end CloudBilling.Client
