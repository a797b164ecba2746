import CloudBilling.Logged
import CloudBilling.Settings.Condition
import CloudBilling.Text.Cut

/-!
# Directives

A directive of a level filter is a level, or says how verbose the events of a target may be, of a
span of the program, or those with a field: `target[span]=level`, where a condition on a field may
stand in braces behind the name of the span and where all but one of the parts may be missing.

The signs between the words are found in the directive without the white space around it. The
words are cut, at the positions of these signs, out of the directive with that white space.
-/

namespace CloudBilling

/-- A directive of a level filter. -/
structure Directive where
  /-- The start of the targets that the directive is about; all targets if there is none. -/
  target : Option String
  /-- The name of the span that events must be in. -/
  span : Option String
  /-- A condition on the fields of events or spans. -/
  condition : Option Condition
  /-- The greatest verbosity that is kept, from 0 for nothing to 5 for everything. -/
  verbosity : Nat
  deriving DecidableEq, Repr

namespace Directive

/-- Why a text is no directive. -/
inductive Fault where
  | malformed
  /-- A word would have to be cut inside a character. -/
  | brokenCharacter
  deriving DecidableEq, Repr

/-- The verbosity that keeps everything. -/
def everything : Nat := 5

/-- The directive about all events, which keeps everything. -/
def unlimited : Directive :=
  ⟨none, none, none, everything⟩

/-- The verbosity that a number names. -/
def verbosityOfNumber? (digits : List Char) : Option Nat :=
  if digits.isEmpty || !digits.all Char.isDigit then none
  else
    let number := digits.foldl (fun total c => 10 * total + (c.toNat - 48)) 0
    if number ≤ everything then some number else none

/-- The verbosity that a word names, in upper or lower case, or as a number. -/
def verbosityOf? (word : List Char) : Option Nat :=
  let number := verbosityOfNumber? (if word.head? = some '+' then word.drop 1 else word)
  match number, String.ofList (word.map Char.toLower) with
  | some number, _ => some number
  | none, "off" => some 0
  | none, "error" => some 1
  | none, "warn" => some 2
  | none, "info" => some 3
  | none, "debug" => some 4
  | none, "trace" => some 5
  | none, _ => none

/-- A character with which a level or a target can start. -/
def isStart (c : Char) : Bool :=
  c = '-' || c = ':' || c = '_' || Text.isAlphanumeric c

/-- A place in a directive without the white space around it: how many bytes come before it, and
the characters from it on. -/
structure Place where
  position : Nat
  rest : List Char

/-- The next place with one of some signs, or the end. -/
def Place.find (place : Place) (signs : List Char) : Place :=
  let skipped := place.rest.takeWhile (!signs.contains ·)
  ⟨place.position + Text.byteLength skipped, place.rest.drop skipped.length⟩

/-- A word that has been cut out, if it could be. -/
def cutWord (word : Option (List Char)) : Except Fault (List Char) :=
  word.elim (.error .brokenCharacter) .ok

/-- What a word says, if it says something. -/
def understood {α : Type} (meaning : Option α) : Except Fault α :=
  meaning.elim (.error .malformed) .ok

/-- A directive to which a level may still belong. A level that is not given keeps everything. -/
def readLevel (written : List Char) (directive : Directive) (place : Place) :
    Except Fault Directive :=
  match place.rest with
  | [] => .ok directive
  | '=' :: _ => do
      let word ← cutWord (Text.cutFrom? (place.position + 1) written)
      if word.isEmpty then return directive
      else return { directive with verbosity := ← understood (verbosityOf? word) }
  | _ => .error .malformed

/-- A directive from the condition on, whose opening brace has been read. -/
def readCondition (written : List Char) (directive : Directive) (place : Place) :
    Except Fault Directive := do
  let close := place.find ['\x7d']
  match close.rest with
  | '\x7d' :: after =>
      let text ← cutWord (Text.cut? place.position close.position written)
      let condition ← understood (if text.isEmpty then none else Condition.read? text)
      match after with
      | ']' :: rest =>
          readLevel written { directive with condition := some condition }
            ⟨close.position + 2, rest⟩
      | _ => throw .malformed
  | _ => throw .malformed

/-- A directive from the name of the span on, whose opening bracket has been read. A name that is
empty is none if a condition follows it. -/
def readSpan (written : List Char) (directive : Directive) (place : Place) :
    Except Fault Directive := do
  let close := place.find [']', '\x7b']
  match close.rest with
  | [] => throw .malformed
  | sign :: rest =>
      let name ← cutWord (Text.cut? place.position close.position written)
      let named := { directive with span := some (String.ofList name) }
      let next := ⟨close.position + 1, rest⟩
      if sign = ']' then readLevel written named next
      else readCondition written (if name.isEmpty then directive else named) next

/-- A directive that starts with a level or a target. A word that is no level is a target. -/
def readTarget (written text : List Char) : Except Fault Directive := do
  let stop := Place.find ⟨0, text⟩ ['=', '[']
  match stop.rest with
  | [] =>
      match verbosityOf? written with
      | some verbosity => return { unlimited with verbosity }
      | none => return { unlimited with target := some (String.ofList written) }
  | sign :: rest =>
      let target ← cutWord (Text.cut? 0 stop.position written)
      let directive := { unlimited with target := some (String.ofList target) }
      if sign = '[' then readSpan written directive ⟨stop.position + 1, rest⟩
      else readLevel written directive stop

/-- Read a directive. -/
def read (written : List Char) : Except Fault Directive :=
  match Text.trim written with
  | [] => .error .malformed
  | '[' :: rest => readSpan written unlimited ⟨1, rest⟩
  | first :: rest =>
      if isStart first then readTarget written (first :: rest) else .error .malformed

/-- The name of the one field that events have. -/
def messageField : String := "message"

/-- Whether a directive is about the events of a target. The program opens no spans, and values
are only compared for the fields of spans. -/
def isAbout (directive : Directive) (target : String) : Bool :=
  directive.span.isNone &&
    directive.target.all (fun start => start.toList.isPrefixOf target.toList) &&
    directive.condition.all fun condition =>
      condition.name = messageField && condition.value.isNone

/-- How specific a directive is: by the length of its target in bytes, and then by whether it has
a condition. -/
def specificity (directive : Directive) : Nat :=
  2 * directive.target.elim 0 (·.utf8ByteSize + 1) + if directive.condition.isSome then 1 else 0

end Directive

end CloudBilling
