import CloudBilling.Json.Value
import CloudBilling.Text.Hex
import CloudBilling.Text.Shortest

/-!
# Printing JSON

The compact form has no space anywhere. The indented form puts every element and entry on a
line of its own, two spaces deeper than its container, and keeps an empty container on one
line. Both print the entries of an object in the order in which they are listed.
-/

namespace CloudBilling.Json

/-- One character inside a string: quote, backslash and controls are escaped, all else is
itself. -/
def escapedChar (c : Char) : List Char :=
  if c = '"' then ['\\', '"']
  else if c = '\\' then ['\\', '\\']
  else if c = '\n' then ['\\', 'n']
  else if c = '\r' then ['\\', 'r']
  else if c = '\t' then ['\\', 't']
  else if c = '\x08' then ['\\', 'b']
  else if c = '\x0c' then ['\\', 'f']
  else if c < ' ' then '\\' :: 'u' :: '0' :: '0' :: Text.hexByte c.toNat
  else [c]

/-- A string with its quotes. -/
def stringLiteral (text : String) : List Char :=
  '"' :: text.toList.flatMap escapedChar ++ ['"']

/-- The absolute value of a double as it is written: the shortest decimal, with its zeros
written out when its first digit is among the 16 places before the point or the 5 after it. -/
def renderMagnitude (magnitude : Text.Double) : List Char :=
  let decimal := magnitude.shortest
  let position := (Nat.repr decimal.digits).length + decimal.exponent
  if -5 < position ∧ position ≤ 16 then decimal.positional else decimal.scientific

/-- A number as it is written. -/
def Number.render : Number → List Char
  | .integer value => (toString value).toList
  | .double negative magnitude =>
      (if negative then ['-'] else []) ++ renderMagnitude magnitude

namespace Value

/-- The form of a value that has no parts. -/
def renderAtom : Value → List Char
  | .null => "null".toList
  | .bool true => "true".toList
  | .bool false => "false".toList
  | .number written => written.render
  | .string text => stringLiteral text
  | .array _ | .object _ => []

mutual

/-- The compact form of a value. -/
def render : Value → List Char
  | .array elements => '[' :: renderElements elements ++ [']']
  | .object entries => '\x7b' :: renderEntries entries ++ ['\x7d']
  | atom => atom.renderAtom

/-- The compact forms of the elements of an array, with commas between them. -/
def renderElements : List Value → List Char
  | [] => []
  | [last] => last.render
  | value :: next :: rest => value.render ++ ',' :: renderElements (next :: rest)

/-- The compact forms of the entries of an object, with commas between them. -/
def renderEntries : List (String × Value) → List Char
  | [] => []
  | [(key, last)] => stringLiteral key ++ ':' :: last.render
  | (key, value) :: next :: rest =>
      stringLiteral key ++ ':' :: value.render ++ ',' :: renderEntries (next :: rest)

end

/-- A new line and the indentation of a nesting level. -/
def newLine (level : Nat) : List Char :=
  '\n' :: List.replicate (2 * level) ' '

mutual

/-- The indented form of a value that stands at a nesting level. -/
def renderIndented (level : Nat) : Value → List Char
  | .array [] => ['[', ']']
  | .array (value :: rest) =>
      '[' :: renderIndentedElements (level + 1) (value :: rest) ++ newLine level ++ [']']
  | .object [] => ['\x7b', '\x7d']
  | .object (entry :: rest) =>
      '\x7b' :: renderIndentedEntries (level + 1) (entry :: rest) ++ newLine level ++ ['\x7d']
  | atom => atom.renderAtom

/-- The elements of an array, each on a line of its own. -/
def renderIndentedElements (level : Nat) : List Value → List Char
  | [] => []
  | [last] => newLine level ++ last.renderIndented level
  | value :: next :: rest =>
      newLine level ++ value.renderIndented level ++
        ',' :: renderIndentedElements level (next :: rest)

/-- The entries of an object, each on a line of its own. -/
def renderIndentedEntries (level : Nat) : List (String × Value) → List Char
  | [] => []
  | [(key, last)] =>
      newLine level ++ stringLiteral key ++ ':' :: ' ' :: last.renderIndented level
  | (key, value) :: next :: rest =>
      newLine level ++ stringLiteral key ++ ':' :: ' ' :: value.renderIndented level ++
        ',' :: renderIndentedEntries level (next :: rest)

end

/-- The compact text of a value. -/
def compact (value : Value) : String :=
  String.ofList value.render

/-- The indented text of a value. -/
def pretty (value : Value) : String :=
  String.ofList (value.renderIndented 0)

end Value

end CloudBilling.Json
