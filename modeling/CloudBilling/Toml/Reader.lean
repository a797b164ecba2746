import CloudBilling.Toml.Scalar
import CloudBilling.Toml.Table
import CloudBilling.Toml.Text

/-!
# Reading TOML documents

A document is read into lines first: pairs of a key and a value, and headers of tables. The
lines then build the tree of tables. Containers and keys nest less than 80 levels deep.
-/

namespace CloudBilling.Toml

/-- How deep containers may stand inside one another, and how many names a key may have. -/
def nestingLimit : Nat := 79

/-- A character of a name without quotes. -/
def isBareChar (c : Char) : Bool :=
  c.isAlphanum || c = '-' || c = '_'

/-- One name of a key. -/
def readName (text : List Char) : Option (String × List Char) :=
  match text with
  | '"' :: rest =>
      (readQuoted rest.length rest).map fun (chars, rest) => (String.ofList chars, rest)
  | '\'' :: rest => (readVerbatim rest).map fun (chars, rest) => (String.ofList chars, rest)
  | _ =>
      let name := text.takeWhile isBareChar
      if name.isEmpty then none else some (String.ofList name, text.dropWhile isBareChar)

/-- The names of a key, with points between them. -/
def readKey (levels : Nat) (text : List Char) : Option (List String × List Char) :=
  match levels with
  | 0 => none
  | levels + 1 => do
      let (name, rest) ← readName (skipBlanks text)
      match skipBlanks rest with
      | '.' :: rest =>
          let (names, rest) ← readKey levels rest
          some (name :: names, rest)
      | rest => some ([name], rest)

mutual

/-- A value off the front of a text. The calls inside one another are at most three times as many
as the characters, which `fuel` counts. -/
def readValue (fuel levels : Nat) (text : List Char) : Option (Value × List Char) :=
  match fuel with
  | 0 => none
  | fuel + 1 =>
      match text with
      | '"' :: _ | '\'' :: _ => (readText text).map fun (content, rest) => (.text content, rest)
      | '[' :: rest =>
          match levels with
          | 0 => none
          | levels + 1 =>
              (readElements fuel levels rest).map fun (elements, rest) => (.array elements, rest)
      | '\x7b' :: rest =>
          match levels with
          | 0 => none
          | levels + 1 =>
              match skipBlanks rest with
              | '\x7d' :: rest => some (.table [], rest)
              | _ => do
                  let (entries, rest) ← readEntries fuel levels [] rest
                  some (.table (finishEntries entries), rest)
      | _ => readScalar text

/-- The elements of an array up to its closing bracket; a comma may stand behind the last. -/
def readElements (fuel levels : Nat) (text : List Char) : Option (List Value × List Char) :=
  match fuel with
  | 0 => none
  | fuel + 1 => do
      match ← skipSpace fuel text with
      | ']' :: rest => some ([], rest)
      | text =>
          let (value, rest) ← readValue fuel levels text
          match ← skipSpace fuel rest with
          | ',' :: rest =>
              let (elements, rest) ← readElements fuel levels rest
              some (value :: elements, rest)
          | ']' :: rest => some ([value], rest)
          | _ => none

/-- The entries of a table in braces that is not empty, up to its closing brace, added to those
that were read before. -/
def readEntries (fuel levels : Nat) (entries : Entries) (text : List Char) :
    Option (Entries × List Char) :=
  match fuel with
  | 0 => none
  | fuel + 1 => do
      let (key, rest) ← readKey nestingLimit text
      match rest with
      | '=' :: rest =>
          let (value, rest) ← readValue fuel levels (skipBlanks rest)
          let entries ← entries.insert value .dotted key
          match skipBlanks rest with
          | ',' :: rest => readEntries fuel levels entries rest
          | '\x7d' :: rest => some (entries, rest)
          | _ => none
      | _ => none

end

/-- A line of a document. -/
inductive Line where
  | pair (key : List String) (value : Value)
  | tableHeader (key : List String)
  | seriesHeader (key : List String)

/-- A header and the pairs that follow it. -/
structure Section where
  isSeries : Bool
  key : List String
  pairs : List (List String × Value)

/-- The end of a line, with a comment that may stand before it. -/
def readLineEnd (text : List Char) : Option (List Char) := do
  match ← skipComment (skipBlanks text) with
  | '\n' :: rest => some rest
  | [] => some []
  | _ => none

/-- A line that is not empty, without its end. -/
def readLine (fuel : Nat) (text : List Char) : Option (Line × List Char) := do
  match text with
  | '[' :: '[' :: rest =>
      match ← readKey nestingLimit rest with
      | (key, ']' :: ']' :: rest) => some (.seriesHeader key, rest)
      | _ => none
  | '[' :: rest =>
      match ← readKey nestingLimit rest with
      | (key, ']' :: rest) => some (.tableHeader key, rest)
      | _ => none
  | text =>
      match ← readKey nestingLimit text with
      | (key, '=' :: rest) =>
          let (value, rest) ← readValue fuel nestingLimit (skipBlanks rest)
          some (.pair key value, rest)
      | _ => none

/-- The lines of a document. Each takes one from `fuel`. -/
def readLines (fuel : Nat) (text : List Char) : Option (List Line) :=
  match fuel with
  | 0 => none
  | fuel + 1 => do
      match ← skipSpace fuel text with
      | [] => some []
      | text =>
          let (line, rest) ← readLine fuel text
          let lines ← readLines fuel (← readLineEnd rest)
          some (line :: lines)

/-- The pairs before the first header, and the sections. -/
def sections : List Line → List (List String × Value) × List Section
  | [] => ([], [])
  | line :: rest =>
      let (pairs, below) := sections rest
      match line with
      | .pair key value => ((key, value) :: pairs, below)
      | .tableHeader key => ([], ⟨false, key, pairs⟩ :: below)
      | .seriesHeader key => ([], ⟨true, key, pairs⟩ :: below)

/-- The tree of tables that lines build. -/
def build (lines : List Line) : Option Entries := do
  let (pairs, below) := sections lines
  let top ← Entries.insertAll pairs []
  below.foldlM
    (fun entries part =>
      entries.reach (if part.isSeries then extendSeries part.pairs else openTable part.pairs)
        part.key)
    top

/-- The entries of a document. A byte order mark at its start is ignored. -/
def read? (text : String) : Option (List (String × Value)) := do
  let chars ← unify (match text.toList with
    | '\ufeff' :: rest => rest
    | chars => chars)
  let lines ← readLines (3 * chars.length + 3) chars
  return finishEntries (← build lines)

end CloudBilling.Toml
