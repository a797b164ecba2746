import CloudBilling.Text.Blank
import CloudBilling.Text.Hex

/-!
# Modes of regular expressions

Flags in a pattern set how the part that follows is read: whether white space and comments may
stand between its items, whether letters match in either case, and whether it matches characters
or bytes. An item may be refused in one mode and allowed in another, because there are no tables
at hand that say which characters form words, have a property or differ only in case; and because
what matches bytes must not match a part of a character.
-/

namespace CloudBilling.Text.Pattern

/-- How a part of a pattern is read. -/
structure Mode where
  /-- White space and comments between items are skipped. -/
  isVerbose : Bool
  /-- Letters match in either case. -/
  ignoresCase : Bool
  /-- Items match characters, and not bytes. -/
  isUnicode : Bool
  deriving DecidableEq, Repr

namespace Mode

/-- The mode in which a pattern starts. -/
def initial : Mode :=
  ⟨false, false, true⟩

/-- The flags that a pattern can set. Four of them change what a pattern matches, and not which
patterns there are. -/
def flags : List Char :=
  ['i', 'm', 's', 'u', 'x', 'R', 'U']

/-- Whether a text sets flags: each at most once, those to switch off behind a hyphen. -/
def isSetting (text : List Char) : Bool :=
  let letters := text.filter (· ≠ '-')
  letters.all flags.contains && letters.length = letters.eraseDups.length &&
    text.length ≤ letters.length + 1 && text.getLast? ≠ some '-'

/-- The mode that a text with flags sets. -/
def set (mode : Mode) (text : List Char) : Mode :=
  let on := text.takeWhile (· ≠ '-')
  let off := text.dropWhile (· ≠ '-')
  let choose (flag : Char) (former : Bool) := on.contains flag || (former && !off.contains flag)
  ⟨choose 'x' mode.isVerbose, choose 'i' mode.ignoresCase, choose 'u' mode.isUnicode⟩

/-- Skip white space and comments. A comment ends with its line. -/
def skipSpace (inComment : Bool) : List Char → List Char
  | [] => []
  | c :: rest =>
      if inComment then skipSpace (c ≠ '\n') rest
      else if c = '#' then skipSpace true rest
      else if isBlank c then skipSpace false rest
      else c :: rest

/-- What is read next. -/
def skip (mode : Mode) (text : List Char) : List Char :=
  if mode.isVerbose then skipSpace false text else text

/-- The character that decides what a hyphen in a class means. One number sign is skipped with the
white space around it. -/
def peek (mode : Mode) (text : List Char) : Option Char :=
  if mode.isVerbose then
    match text.dropWhile isBlank with
    | '#' :: rest => (rest.dropWhile isBlank).head?
    | rest => rest.head?
  else text.head?

end Mode

/-- What one item outside or inside a class stands for. -/
inductive Atom where
  /-- A character. -/
  | character (c : Char)
  /-- A number from 0x80 to 0xff given by two digits: a character, or in byte mode a byte. -/
  | wideByte (value : Nat)
  /-- The digits, the white space or the characters of words, or all but these. -/
  | group (negated : Bool)
  /-- The start or the end of the text. -/
  | textEdge
  /-- The start or the end of a word, either, or neither. -/
  | wordEdge
  deriving DecidableEq, Repr

namespace Atom

/-- Whether an atom can stand outside a class. -/
def standsIn (mode : Mode) : Atom → Bool
  | .character _ => !(mode.isUnicode && mode.ignoresCase)
  | .wideByte _ => mode.isUnicode && !mode.ignoresCase
  | .group negated => !mode.isUnicode && !negated
  | .textEdge => true
  | .wordEdge => !mode.isUnicode

/-- Whether an atom can be a member of a class. In byte mode the members are ASCII. -/
def isMemberIn (mode : Mode) : Atom → Bool
  | .character c => if mode.isUnicode then !mode.ignoresCase else c.toNat < 0x80
  | .wideByte _ => mode.isUnicode && !mode.ignoresCase
  | .group negated => !mode.isUnicode && !negated
  | .textEdge | .wordEdge => false

/-- The code point of an atom, if it is one. -/
def codePoint? : Atom → Option Nat
  | .character c => some c.toNat
  | .wideByte value => some value
  | _ => none

/-- A character that stands for itself behind a backslash: ASCII, and neither a letter nor a digit
nor an angle bracket. -/
def isEscapable (c : Char) : Bool :=
  c.toNat < 0x80 && !c.isAlphanum && c ≠ '<' && c ≠ '>'

/-- A number of hexadecimal digits, with space between them where the mode allows it. -/
def readDigits (mode : Mode) : Nat → List Char → Option (List Char × List Char)
  | 0, text => some ([], text)
  | count + 1, text =>
      match mode.skip text with
      | digit :: rest =>
          if (hexValue? digit).isNone then none
          else (readDigits mode count rest).map fun (digits, rest) => (digit :: digits, rest)
      | [] => none

/-- The character with a number of so many hexadecimal digits. -/
def readCodePoint (mode : Mode) (count : Nat) (text : List Char) :
    Option (Nat × List Char) := do
  let (digits, rest) ← readDigits mode count text
  let number ← hexNumber? digits
  if number.isValidChar then some (number, rest) else none

/-- The atom of an escape whose backslash has been read. Properties of characters are known by no
name. -/
def readEscape (mode : Mode) : List Char → Option (Atom × List Char)
  | [] => none
  | letter :: rest =>
      match letter with
      | 'x' => do
          let (number, rest) ← readCodePoint mode 2 rest
          return (if number < 0x80 then .character (Char.ofNat number) else .wideByte number, rest)
      | 'u' => do
          let (number, rest) ← readCodePoint mode 4 rest
          return (.character (Char.ofNat number), rest)
      | 'U' => do
          let (number, rest) ← readCodePoint mode 8 rest
          return (.character (Char.ofNat number), rest)
      | 'd' | 's' | 'w' => some (.group false, rest)
      | 'D' | 'S' | 'W' => some (.group true, rest)
      | 'a' => some (.character '\x07', rest)
      | 'f' => some (.character '\x0c', rest)
      | 't' => some (.character '\t', rest)
      | 'n' => some (.character '\n', rest)
      | 'r' => some (.character '\r', rest)
      | 'v' => some (.character '\x0b', rest)
      | 'A' | 'z' => some (.textEdge, rest)
      | 'b' | 'B' | '<' | '>' => some (.wordEdge, rest)
      | c => if isEscapable c then some (.character c, rest) else none

/-- The atom at the front of a text. -/
def read (mode : Mode) : List Char → Option (Atom × List Char)
  | '\\' :: rest => readEscape mode rest
  | c :: rest => some (.character c, rest)
  | [] => none

end Atom

end CloudBilling.Text.Pattern
