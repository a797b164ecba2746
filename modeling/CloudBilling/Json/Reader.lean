import CloudBilling.Json.Numeral
import CloudBilling.Text.Hex

/-!
# Reading JSON texts

A reader takes a value off the front of a text and returns it with the rest, or nothing if the
front is malformed. It refuses containers that nest deeper than 127 levels, numerals that no
finite double is near to, and escapes that name one half of a surrogate pair. Of two entries of an
object with one key the later counts.
-/

namespace CloudBilling.Json

/-- The white space between tokens. -/
def isSpace (c : Char) : Bool :=
  c = ' ' || c = '\n' || c = '\t' || c = '\r'

/-- Drop the white space at the front. -/
def skipSpace (text : List Char) : List Char :=
  text.dropWhile isSpace

/-- The 16-bit unit that four hexadecimal digits spell. -/
def unitOf (a b c d : Char) : Option Nat :=
  Text.hexNumber? [a, b, c, d]

/-- The character that one letter stands for after a backslash. -/
def letterEscape : Char → Option Char
  | '"' => some '"'
  | '\\' => some '\\'
  | '/' => some '/'
  | 'b' => some '\x08'
  | 'f' => some '\x0c'
  | 'n' => some '\n'
  | 'r' => some '\r'
  | 't' => some '\t'
  | _ => none

/-- The rest of a string whose opening quote has been read. Controls must be escaped, and the
two halves of a surrogate pair must follow one another. -/
def readStringTail : List Char → Option (List Char × List Char)
  | '"' :: rest => some ([], rest)
  | '\\' :: 'u' :: a :: b :: c :: d :: rest => do
      let unit ← unitOf a b c d
      if 0xdc00 ≤ unit ∧ unit ≤ 0xdfff then none
      else if 0xd800 ≤ unit ∧ unit ≤ 0xdbff then
        match rest with
        | '\\' :: 'u' :: e :: f :: g :: h :: rest =>
            let low ← unitOf e f g h
            if 0xdc00 ≤ low ∧ low ≤ 0xdfff then
              let (chars, rest) ← readStringTail rest
              some (Char.ofNat (0x10000 + (unit - 0xd800) * 0x400 + (low - 0xdc00)) :: chars, rest)
            else none
        | _ => none
      else
        let (chars, rest) ← readStringTail rest
        some (Char.ofNat unit :: chars, rest)
  | '\\' :: letter :: rest => do
      let c ← letterEscape letter
      let (chars, rest) ← readStringTail rest
      some (c :: chars, rest)
  | c :: rest =>
      if c < ' ' || c = '\\' then none
      else do
        let (chars, rest) ← readStringTail rest
        some (c :: chars, rest)
  | [] => none

/-- A string whose opening quote has been read. -/
def readString (text : List Char) : Option (String × List Char) :=
  (readStringTail text).map fun (chars, rest) => (String.ofList chars, rest)

/-- How many containers may stand inside one another. -/
def nestingLimit : Nat := 127

/-- A fixed word off the front of a text. -/
def readWord (word : String) (value : Value) (text : List Char) : Option (Value × List Char) :=
  if word.toList.isPrefixOf text then some (value, text.drop word.length) else none

/-- A number off the front of a text. -/
def readNumber (text : List Char) : Option (Value × List Char) := do
  let (numeral, rest) ← Numeral.read text
  some (.number (← numeral.number?), rest)

mutual

/-- A value off the front of a text. Each step into a container takes one from `levels`. The
calls inside one another are at most twice as many as the characters, which `fuel` counts. -/
def readValue (fuel levels : Nat) (text : List Char) : Option (Value × List Char) :=
  match fuel with
  | 0 => none
  | fuel + 1 =>
      match skipSpace text with
      | '"' :: rest => (readString rest).map fun (text, rest) => (.string text, rest)
      | '[' :: rest =>
          match levels with
          | 0 => none
          | levels + 1 =>
              match skipSpace rest with
              | ']' :: rest => some (.array [], rest)
              | rest =>
                  (readElements fuel levels rest).map fun (elements, rest) =>
                    (.array elements, rest)
      | '\x7b' :: rest =>
          match levels with
          | 0 => none
          | levels + 1 =>
              match skipSpace rest with
              | '\x7d' :: rest => some (.object [], rest)
              | rest =>
                  (readEntries fuel levels [] rest).map fun (entries, rest) =>
                    (.object entries, rest)
      | 'n' :: rest => readWord "ull" .null rest
      | 't' :: rest => readWord "rue" (.bool true) rest
      | 'f' :: rest => readWord "alse" (.bool false) rest
      | text => readNumber text

/-- The elements of an array that is not empty, up to its closing bracket. -/
def readElements (fuel levels : Nat) (text : List Char) : Option (List Value × List Char) :=
  match fuel with
  | 0 => none
  | fuel + 1 => do
      let (value, rest) ← readValue fuel levels text
      match skipSpace rest with
      | ',' :: rest =>
          let (elements, rest) ← readElements fuel levels rest
          some (value :: elements, rest)
      | ']' :: rest => some ([value], rest)
      | _ => none

/-- The entries of an object that is not empty, up to its closing brace, put into those that
were read before. -/
def readEntries (fuel levels : Nat) (entries : Dict Value) (text : List Char) :
    Option (Dict Value × List Char) :=
  match fuel with
  | 0 => none
  | fuel + 1 => do
      match skipSpace text with
      | '"' :: rest =>
          let (key, rest) ← readString rest
          match skipSpace rest with
          | ':' :: rest =>
              let (value, rest) ← readValue fuel levels rest
              match skipSpace rest with
              | ',' :: rest => readEntries fuel levels (entries.put key value) rest
              | '\x7d' :: rest => some (entries.put key value, rest)
              | _ => none
          | _ => none
      | _ => none

end

/-- The first value of a text, with what follows it. -/
def readFirst (text : String) : Option (Value × List Char) :=
  readValue (2 * text.length + 2) nestingLimit text.toList

/-- The value that a text is, with nothing but white space around it. -/
def read? (text : String) : Option Value := do
  let (value, rest) ← readFirst text
  if (skipSpace rest).isEmpty then some value else none

end CloudBilling.Json
