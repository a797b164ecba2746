/-!
# How deep regular expressions nest

The height of a part of a pattern counts the things in it that stand inside one another: groups,
repetitions, classes, operators, rows of several items and alternatives between them. What has no
parts has height 0. A pattern that is too high is refused.
-/

namespace CloudBilling.Text.Pattern

/-- The greatest height of a pattern. -/
def heightLimit : Nat := 250

/-- The height of a whole by the heights of its parts. A lone part is the whole itself. -/
def heightOf : List Nat → Nat
  | [] => 0
  | [height] => height
  | heights => heights.foldl max 0 + 1

/-- What has been read of a group or a class: a row of items, and what stands before the row. -/
structure Level where
  /-- The heights of the alternatives before the row, or of all that is left of an operator. -/
  before : List Nat
  /-- The heights of the items in the row, the last one first. -/
  items : List Nat
  deriving DecidableEq, Repr

namespace Level

/-- Nothing has been read. -/
def empty : Level :=
  ⟨[], []⟩

/-- The height of what has been read. -/
def height (level : Level) : Nat :=
  heightOf (heightOf level.items :: level.before)

/-- An item of a height has been read. -/
def add (level : Level) (height : Nat) : Level :=
  { level with items := height :: level.items }

/-- The last item is repeated. -/
def repeatLast (level : Level) : Level :=
  match level.items with
  | height :: items => { level with items := (height + 1) :: items }
  | [] => level

/-- A new alternative starts. -/
def alternative (level : Level) : Level :=
  ⟨heightOf level.items :: level.before, []⟩

/-- An operator has been read. All that is left of it is its first operand. -/
def operator (level : Level) : Level :=
  ⟨[level.height], []⟩

end Level

end CloudBilling.Text.Pattern
