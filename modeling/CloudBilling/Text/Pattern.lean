import CloudBilling.Text.Letter
import CloudBilling.Text.Pattern.Class

/-!
# Regular expressions

Which texts are patterns. A pattern is read from left to right: characters, escapes and classes,
groups in parentheses, bars between alternatives, and signs of repetition, which need something
that they repeat. Patterns come out of braces, so that what an opening brace starts in one is never
closed, and no pattern counts its repetitions. The parts must not stand too deep in one another.
-/

namespace CloudBilling.Text.Pattern

/-- What is known about a pattern whose front has been read. -/
structure Progress where
  mode : Mode
  /-- What has been read of the innermost group that is open, or of the pattern. -/
  level : Level
  /-- The modes behind the groups that are open, and what has been read of what is around each,
  innermost first. -/
  outer : List (Mode × Level)
  /-- The names that groups have. -/
  names : List (List Char)
  /-- Whether a sign of repetition can come next. -/
  isRepeatable : Bool
  deriving DecidableEq, Repr

namespace Progress

/-- Nothing has been read. -/
def start : Progress :=
  ⟨.initial, .empty, [], [], false⟩

/-- An item of a height has been read. -/
def item (progress : Progress) (height : Nat) : Progress :=
  { progress with level := progress.level.add height, isRepeatable := true }

/-- Flags have been read, which can be no part of a repetition. -/
def flags (progress : Progress) (mode : Mode) : Progress :=
  { progress with mode, level := progress.level.add 0, isRepeatable := false }

/-- A bar has been read. -/
def alternative (progress : Progress) : Progress :=
  { progress with level := progress.level.alternative, isRepeatable := false }

/-- A sign of repetition has been read. -/
def repetition? (progress : Progress) : Option Progress :=
  if progress.isRepeatable then some { progress with level := progress.level.repeatLast } else none

/-- A group has been opened whose items are read in a mode. -/
def openGroup (progress : Progress) (mode : Mode) : Progress :=
  { progress with
    mode, level := .empty, outer := (progress.mode, progress.level) :: progress.outer
    isRepeatable := false }

/-- A group has been closed. -/
def closeGroup? (progress : Progress) : Option Progress :=
  match progress.outer with
  | (mode, around) :: outer =>
      let level := around.add (progress.level.height + 1)
      some { progress with mode, level, outer, isRepeatable := true }
  | [] => none

/-- Whether a pattern can end: no group is open, and it is not too high. -/
def canEnd (progress : Progress) : Bool :=
  progress.outer.isEmpty && progress.level.height ≤ heightLimit

end Progress

/-- Whether a text can be the name of a group. -/
def isGroupName : List Char → Bool
  | [] => false
  | first :: rest =>
      (first = '_' || isAlphabetic first) &&
        rest.all fun c => ['_', '.', '[', ']'].contains c || isAlphanumeric c

/-- The rest of the opening of a group that has a name. -/
def readNamedGroup (progress : Progress) (text : List Char) :
    Option (Progress × List Char) :=
  let name := text.takeWhile (· ≠ '>')
  match text.dropWhile (· ≠ '>') with
  | '>' :: rest =>
      if isGroupName name && !progress.names.contains name then
        let opened := progress.openGroup progress.mode
        some ({ opened with names := name :: progress.names }, rest)
      else none
  | _ => none

/-- Flags, for what follows up to the end of the group around them, or for a group of their
own. -/
def readFlags (progress : Progress) (text : List Char) : Option (Progress × List Char) :=
  let isEnd (c : Char) := c = ':' || c = ')'
  let flags := text.takeWhile (!isEnd ·)
  let mode := progress.mode.set flags
  if !Mode.isSetting flags then none
  else
    match text.dropWhile (!isEnd ·) with
    | ':' :: rest => some (progress.openGroup mode, rest)
    | ')' :: rest =>
        if flags.isEmpty then none else some (progress.flags mode, rest)
    | _ => none

/-- The rest of the opening of a group, or flags. A pattern cannot look around. -/
def readGroup (progress : Progress) (text : List Char) : Option (Progress × List Char) :=
  match progress.mode.skip text with
  | '?' :: '=' :: _ | '?' :: '!' :: _ | '?' :: '<' :: '=' :: _ | '?' :: '<' :: '!' :: _ => none
  | '?' :: 'P' :: '<' :: rest | '?' :: '<' :: rest => readNamedGroup progress rest
  | '?' :: rest => readFlags progress rest
  | rest => some (progress.openGroup progress.mode, rest)

/-- Read one item of a pattern, which is not at its end. A question mark behind a sign of
repetition belongs to it. -/
def readItem (progress : Progress) (text : List Char) : Option (Progress × List Char) :=
  match text with
  | '(' :: rest => readGroup progress rest
  | ')' :: rest => progress.closeGroup?.map (·, rest)
  | '|' :: rest => some (progress.alternative, rest)
  | '[' :: rest =>
      (Class.read progress.mode rest).map fun (height, rest) => (progress.item height, rest)
  | '?' :: rest | '*' :: rest | '+' :: rest =>
      progress.repetition?.map (·, if rest.head? = some '?' then rest.drop 1 else rest)
  | '\x7b' :: _ => none
  | '.' :: rest => if progress.mode.isUnicode then some (progress.item 0, rest) else none
  | '^' :: rest | '$' :: rest => some (progress.item 0, rest)
  | _ => do
      let (atom, rest) ← Atom.read progress.mode text
      if atom.standsIn progress.mode then some (progress.item 0, rest) else none

/-- Whether the rest of a pattern can be read to its end. Each item takes one from `fuel`. -/
def readItems (fuel : Nat) (progress : Progress) (text : List Char) : Bool :=
  match fuel, progress.mode.skip text with
  | _, [] => progress.canEnd
  | 0, _ => false
  | fuel + 1, text =>
      match readItem progress text with
      | some (progress, rest) => readItems fuel progress rest
      | none => false

/-- Whether a text is a pattern. -/
def isPattern (text : List Char) : Bool :=
  readItems text.length .start text

end CloudBilling.Text.Pattern
