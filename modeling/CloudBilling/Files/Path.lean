/-!
# Paths

A path is a text of names with slashes between them; one that starts with a slash is absolute.
Joining and taking parents work on the text alone and never look at files.
-/

namespace CloudBilling.Path

/-- Whether a path starts at the root. -/
def isAbsolute (path : String) : Bool :=
  path.toList.head? = some '/'

/-- Whether a path ends with a slash. -/
def endsWithSlash (path : String) : Bool :=
  path.toList.getLast? = some '/'

/-- A path as seen from a base; an absolute path stays as it is. An empty path adds a slash to
the base. -/
def join (base path : String) : String :=
  if isAbsolute path then path
  else if base = "" ∨ endsWithSlash base then base ++ path
  else base ++ "/" ++ path

/-- The names between the slashes of a text. -/
def splitNames : List Char → List (List Char)
  | [] => [[]]
  | c :: rest =>
      match splitNames rest with
      | [] => [[c]]
      | name :: names => if c = '/' then [] :: name :: names else (c :: name) :: names

/-- The names in a path, from the root down. Slashes in a row count as one. -/
def names (path : String) : List String :=
  ((splitNames path.toList).filter (· ≠ [])).map String.ofList

/-- The text of a path with some names. -/
def ofNames (absolute : Bool) (names : List String) : String :=
  (if absolute then "/" else "") ++ "/".intercalate names

/-- Drop the names at the end that stand for the place they are in. -/
def dropTrailingDots (absolute : Bool) (names : List String) : List String :=
  let kept := names.reverse.dropWhile (· = ".")
  if kept = [] ∧ names ≠ [] ∧ !absolute then ["."] else kept.reverse

/-- The path without its last name; the root and the empty path have no parent. -/
def parent? (path : String) : Option String :=
  let absolute := isAbsolute path
  match (dropTrailingDots absolute (names path)).reverse with
  | [] => none
  | _ :: above =>
      if above = [] then some (ofNames absolute [])
      else some (ofNames absolute (dropTrailingDots absolute above.reverse))

/-- A join with an absolute base, or of an absolute path, is absolute. -/
theorem isAbsolute_join {base path : String} (rooted : isAbsolute base = true) :
    isAbsolute (join base path) = true := by
  unfold join
  split
  · assumption
  · unfold isAbsolute at rooted ⊢
    split
    · rw [String.toList_append]
      cases shape : base.toList with
      | nil => simp [shape] at rooted
      | cons first rest => simpa [shape] using rooted
    · rw [String.toList_append, String.toList_append]
      cases shape : base.toList with
      | nil => simp [shape] at rooted
      | cons first rest => simpa [shape] using rooted

end CloudBilling.Path
