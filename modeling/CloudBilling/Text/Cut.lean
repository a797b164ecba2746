/-!
# Cutting texts by bytes

Positions in a text count the bytes that its characters take in UTF-8. A text can be cut at a
position between two characters, not at one inside a character.
-/

namespace CloudBilling.Text

/-- How many bytes characters take. -/
def byteLength : List Char → Nat
  | [] => 0
  | c :: rest => c.utf8Size + byteLength rest

/-- The characters before a position and those from it on. -/
def splitAtByte? (position : Nat) (chars : List Char) : Option (List Char × List Char) :=
  match position, chars with
  | 0, chars => some ([], chars)
  | _ + 1, [] => none
  | position + 1, c :: rest =>
      if c.utf8Size ≤ position + 1 then
        (splitAtByte? (position + 1 - c.utf8Size) rest).map fun (front, back) => (c :: front, back)
      else none

/-- The characters from a position on. -/
def cutFrom? (start : Nat) (chars : List Char) : Option (List Char) :=
  (splitAtByte? start chars).map (·.2)

/-- The characters between two positions. -/
def cut? (start stop : Nat) (chars : List Char) : Option (List Char) := do
  let rest ← cutFrom? start chars
  let (inside, _) ← splitAtByte? (stop - start) rest
  return inside

end CloudBilling.Text
