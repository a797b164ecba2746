import CloudBilling.Settings.Directive
import CloudBilling.Settings.Halt

/-!
# Level filters

A level filter decides which log events are kept. It is a list of directives with commas between
them. The most specific of the directives about an event decides, and of two that are equally
specific the later one counts; an event that no directive is about is dropped. Nothing between
two commas says nothing.
-/

namespace CloudBilling

/-- A level filter and the text that it was read from. -/
structure LevelFilter where
  text : String
  directives : List Directive
  deriving DecidableEq, Repr

namespace LevelFilter

/-- The pieces of a text between its commas. -/
def splitCommas : List Char → List (List Char)
  | [] => [[]]
  | c :: rest =>
      match splitCommas rest with
      | [] => [[c]]
      | piece :: pieces => if c = ',' then [] :: piece :: pieces else (c :: piece) :: pieces

/-- The directives of a level filter. -/
def readDirectives (text : String) : Except Directive.Fault (List Directive) :=
  ((splitCommas text.toList).filter (· ≠ [])).mapM Directive.read

/-- Read a level filter. One without directives keeps nothing. The first directive that is none
decides how the run halts. -/
def read (text : String) : Except Halt LevelFilter :=
  match readDirectives text with
  | .ok directives => .ok ⟨text, directives⟩
  | .error .malformed => .error (.ofMessage s!"Invalid level filter: \"{text}\".")
  | .error .brokenCharacter =>
      .error (.aborted s!"level filter \"{text}\" would be cut inside a character")

/-- The more specific of a directive and one that comes after it. -/
def prefer (former : Option Directive) (latter : Directive) : Option Directive :=
  match former with
  | some directive =>
      if latter.specificity < directive.specificity then some directive else some latter
  | none => some latter

/-- Whether an event is kept. -/
def keeps (filter : LevelFilter) (event : Event) : Bool :=
  let about := filter.directives.filter fun directive => directive.isAbout event.origin.target
  (about.foldl prefer none).any fun directive => event.level.verbosity ≤ directive.verbosity

end LevelFilter

end CloudBilling
