import CloudBilling.Text.Hex

/-!
# Texts, blanks and comments of TOML

A text stands between quotes or between triple quotes, either with escapes or verbatim. Lines end
with a line feed; a carriage return is allowed only before one, and `unify` removes it before
anything else is read.
-/

namespace CloudBilling.Toml

/-- The text with every line ending as a line feed, unless a carriage return stands alone. -/
def unify : List Char → Option (List Char)
  | [] => some []
  | '\r' :: '\n' :: rest => (unify rest).map ('\n' :: ·)
  | c :: rest => if c = '\r' then none else (unify rest).map (c :: ·)

/-- A blank within a line. -/
def isBlank (c : Char) : Bool :=
  c = ' ' || c = '\t'

/-- A blank or a line feed. -/
def isSpace (c : Char) : Bool :=
  isBlank c || c = '\n'

/-- A character that can stand in a comment or a text: no control but the tab. -/
def isPlain (c : Char) : Bool :=
  c = '\t' || (' ' ≤ c && c ≠ '\x7f')

/-- Drop the blanks at the front. -/
def skipBlanks (text : List Char) : List Char :=
  text.dropWhile isBlank

/-- Drop a comment at the front, up to the end of its line. -/
def skipComment : List Char → Option (List Char)
  | '#' :: rest =>
      if (rest.takeWhile (· ≠ '\n')).all isPlain then some (rest.dropWhile (· ≠ '\n')) else none
  | text => some text

/-- Drop blanks, line feeds and comments at the front. Each comment takes one from `fuel`. -/
def skipSpace (fuel : Nat) (text : List Char) : Option (List Char) :=
  match text.dropWhile isSpace, fuel with
  | '#' :: rest, fuel + 1 => do skipSpace fuel (← skipComment ('#' :: rest))
  | '#' :: _, 0 => none
  | rest, _ => some rest

/-- The character with a number, unless the number is that of half a surrogate pair or too
large. -/
def charOf? (digits : List Char) : Option Char := do
  let number ← Text.hexNumber? digits
  if number.isValidChar then some (Char.ofNat number) else none

/-- The character that one letter stands for after a backslash. -/
def letterEscape : Char → Option Char
  | 'b' => some '\x08'
  | 't' => some '\t'
  | 'n' => some '\n'
  | 'f' => some '\x0c'
  | 'r' => some '\r'
  | '"' => some '"'
  | '\\' => some '\\'
  | _ => none

/-- The character of an escape whose backslash has been read, and the rest. -/
def readEscape : List Char → Option (Char × List Char)
  | 'u' :: a :: b :: c :: d :: rest => (charOf? [a, b, c, d]).map (·, rest)
  | 'U' :: a :: b :: c :: d :: e :: f :: g :: h :: rest =>
      (charOf? [a, b, c, d, e, f, g, h]).map (·, rest)
  | letter :: rest => (letterEscape letter).map (·, rest)
  | [] => none

/-- The rest of a text in quotes. Each character takes one from `fuel`. -/
def readQuoted (fuel : Nat) (text : List Char) : Option (List Char × List Char) :=
  match fuel, text with
  | _, '"' :: rest => some ([], rest)
  | fuel + 1, '\\' :: rest => do
      let (c, rest) ← readEscape rest
      let (chars, rest) ← readQuoted fuel rest
      some (c :: chars, rest)
  | fuel + 1, c :: rest =>
      if isPlain c then do
        let (chars, rest) ← readQuoted fuel rest
        some (c :: chars, rest)
      else none
  | _, _ => none

/-- The rest of a text in verbatim quotes. -/
def readVerbatim : List Char → Option (List Char × List Char)
  | '\'' :: rest => some ([], rest)
  | c :: rest =>
      if isPlain c then (readVerbatim rest).map fun (chars, rest) => (c :: chars, rest) else none
  | [] => none

/-- A line feed right after the opening quotes is no part of a text. -/
def dropFirstLine : List Char → List Char
  | '\n' :: rest => rest
  | text => text

/-- Up to two quotes that stand right before the closing ones are part of a text. -/
def readLastQuotes (quote : Char) : List Char → List Char × List Char
  | first :: second :: rest =>
      if first = quote then
        if second = quote then ([first, second], rest) else ([first], second :: rest)
      else ([], first :: second :: rest)
  | [first] => if first = quote then ([first], []) else ([], [first])
  | [] => ([], [])

/-- The rest of a text in triple quotes. A backslash at the end of a line removes the white space
that follows. Each step takes one from `fuel`. -/
def readTripleQuoted (fuel : Nat) (text : List Char) : Option (List Char × List Char) :=
  match fuel, text with
  | _, '"' :: '"' :: '"' :: rest => some (readLastQuotes '"' rest)
  | fuel + 1, '\\' :: rest =>
      if (skipBlanks rest).head? = some '\n' then
        readTripleQuoted fuel (rest.dropWhile isSpace)
      else do
        let (c, rest) ← readEscape rest
        let (chars, rest) ← readTripleQuoted fuel rest
        some (c :: chars, rest)
  | fuel + 1, c :: rest =>
      if isPlain c || c = '\n' then do
        let (chars, rest) ← readTripleQuoted fuel rest
        some (c :: chars, rest)
      else none
  | _, _ => none

/-- The rest of a text in triple verbatim quotes. -/
def readTripleVerbatim : List Char → Option (List Char × List Char)
  | '\'' :: '\'' :: '\'' :: rest => some (readLastQuotes '\'' rest)
  | c :: rest =>
      if isPlain c || c = '\n' then
        (readTripleVerbatim rest).map fun (chars, rest) => (c :: chars, rest)
      else none
  | [] => none

/-- A text with its quotes. -/
def readText (text : List Char) : Option (String × List Char) :=
  let content := match text with
    | '"' :: '"' :: '"' :: rest => readTripleQuoted rest.length (dropFirstLine rest)
    | '"' :: rest => readQuoted rest.length rest
    | '\'' :: '\'' :: '\'' :: rest => readTripleVerbatim (dropFirstLine rest)
    | '\'' :: rest => readVerbatim rest
    | _ => none
  content.map fun (chars, rest) => (String.ofList chars, rest)

end CloudBilling.Toml
