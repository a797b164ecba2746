import CloudBilling.Text.Pattern.Level
import CloudBilling.Text.Pattern.Mode

/-!
# Classes of regular expressions

A class stands in brackets and holds characters, ranges of characters, named groups of ASCII
characters and other classes, with operators between them. An operator needs nothing on either
side. A class of bytes cannot be negated, since it would then match parts of characters.
-/

namespace CloudBilling.Text.Pattern.Class

/-- The names of the groups of ASCII characters. -/
def groupNames : List String :=
  ["alnum", "alpha", "ascii", "blank", "cntrl", "digit", "graph", "lower", "print", "punct",
   "space", "upper", "word", "xdigit"]

/-- The end of a named group, whose name starts the text. -/
def readGroupName (text : List Char) : Option (List Char) :=
  match text.dropWhile (· ≠ ':') with
  | ':' :: ']' :: rest =>
      if groupNames.contains (String.ofList (text.takeWhile (· ≠ ':'))) then some rest else none
  | _ => none

/-- A named group whose opening bracket has been read: whether it is negated, and the rest. -/
def readGroup : List Char → Option (Bool × List Char)
  | ':' :: '^' :: rest => (readGroupName rest).map (true, ·)
  | ':' :: rest => (readGroupName rest).map (false, ·)
  | _ => none

/-- Whether a class, or a group in it, may be negated. -/
def allowsNegation (mode : Mode) (negated : Bool) : Bool :=
  mode.isUnicode || !negated

/-- Whether a class may hold characters at all: their other case cannot be found. -/
def allowsMembers (mode : Mode) : Bool :=
  !(mode.isUnicode && mode.ignoresCase)

/-- A character or a range of characters. A hyphen means a range unless a bracket or another
hyphen comes next. -/
def readRange (mode : Mode) (text : List Char) : Option (List Char) := do
  let (first, rest) ← Atom.read mode text
  let rest := mode.skip rest
  match rest with
  | '-' :: after =>
      if mode.peek after = some ']' || mode.peek after = some '-' then
        if first.isMemberIn mode then some rest else none
      else
        let (last, rest) ← Atom.read mode (mode.skip after)
        let low ← first.codePoint?
        let high ← last.codePoint?
        if first.isMemberIn mode && last.isMemberIn mode && low ≤ high then some rest else none
  | _ => if first.isMemberIn mode then some rest else none

/-- The members of a class, behind the caret that negates it. -/
def readNegation (mode : Mode) (text : List Char) : Option (List Char) :=
  match mode.skip text with
  | '^' :: rest => if allowsNegation mode true then some rest else none
  | rest => some rest

/-- How much of a class has been read. -/
inductive Progress where
  /-- Nothing: a closing bracket is a member. -/
  | none
  /-- Hyphens, which are members. -/
  | hyphens
  | members
  deriving DecidableEq, Repr

/-- The rest of a class, and how high it is. The classes around it are given by what has been read
of them, innermost first. Each step takes one from `fuel`. -/
def readMembers (mode : Mode) (fuel : Nat) (outer : List Level) (level : Level)
    (progress : Progress) (text : List Char) : Option (Nat × List Char) :=
  match fuel with
  | 0 => .none
  | fuel + 1 =>
      match mode.skip text, progress with
      | '-' :: rest, .none | '-' :: rest, .hyphens =>
          if allowsMembers mode then readMembers mode fuel outer (level.add 0) .hyphens rest
          else .none
      | ']' :: rest, .none =>
          if allowsMembers mode then readMembers mode fuel outer (level.add 0) .members rest
          else .none
      | ']' :: rest, _ =>
          match outer with
          | [] => some (level.height + 1, rest)
          | around :: outer =>
              readMembers mode fuel outer (around.add (level.height + 1)) .members rest
      | '[' :: rest, _ =>
          match readGroup rest with
          | some (negated, rest) =>
              if allowsMembers mode && allowsNegation mode negated then
                readMembers mode fuel outer (level.add 0) .members rest
              else .none
          | .none => do
              readMembers mode fuel (level :: outer) .empty .none (← readNegation mode rest)
      | '&' :: '&' :: rest, _ | '-' :: '-' :: rest, _ | '~' :: '~' :: rest, _ =>
          readMembers mode fuel outer level.operator .members rest
      | text, _ => do
          readMembers mode fuel outer (level.add 0) .members (← readRange mode text)

/-- The height of a class whose opening bracket has been read, and the rest behind it. -/
def read (mode : Mode) (text : List Char) : Option (Nat × List Char) := do
  readMembers mode (text.length + 1) [] .empty .none (← readNegation mode text)

end CloudBilling.Text.Pattern.Class
