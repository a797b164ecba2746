import CloudBilling.Files.FileSystem

/-!
# Trees of files

A file system held as a list of what stands at each place. A place is the list of names that
lead to it from the root. A path is followed name by name, and each name but the last must be
that of a directory; there are no links, so a step up always returns to the directory that was
left.
-/

namespace CloudBilling

/-- What stands at a place. -/
inductive FileNode where
  | directory
  | file (content : ByteArray)

/-- A tree of files and the current directory. The root always is a directory. -/
structure FileTree where
  nodes : List (List String × FileNode)
  current : List String

namespace FileTree

/-- The length in bytes that no name may exceed. -/
def nameLimit : Nat := 255

/-- The length in bytes that no path may reach. -/
def pathLimit : Nat := 4096

/-- What stands at a place. -/
def node? (tree : FileTree) (place : List String) : Option FileNode :=
  if place = [] then some .directory else tree.nodes.lookup place

/-- Put something at a place. -/
def put (tree : FileTree) (place : List String) (node : FileNode) : FileTree :=
  { tree with nodes := (place, node) :: tree.nodes.filter fun entry => entry.1 ≠ place }

/-- Follow names from a place. -/
def walk (tree : FileTree) : List String → List String → Except FileFault (List String)
  | place, [] => .ok place
  | place, name :: rest =>
      match tree.node? place with
      | none => .error .notFound
      | some (.file _) => .error .notDirectory
      | some .directory =>
          if name = "." then walk tree place rest
          else if name = ".." then walk tree place.dropLast rest
          else if nameLimit < name.utf8ByteSize then .error .nameTooLong
          else if (tree.node? (place ++ [name])).isNone then .error .notFound
          else walk tree (place ++ [name]) rest

/-- The names of a path that can be followed, and the place where to start. -/
def start (tree : FileTree) (path : String) : Except FileFault (List String × List String) :=
  if path.toList.contains '\x00' then .error .nulInPath
  else if path = "" then .error .notFound
  else if pathLimit ≤ path.utf8ByteSize then .error .nameTooLong
  else .ok (if Path.isAbsolute path then [] else tree.current, Path.names path)

/-- The place that a path leads to, and what stands there. A path that ends with a slash leads
to a directory. -/
def find (tree : FileTree) (path : String) : Except FileFault (List String × FileNode) := do
  let (place, names) ← tree.start path
  let place ← tree.walk place (if Path.endsWithSlash path then names ++ ["."] else names)
  match tree.node? place with
  | some node => return (place, node)
  | none => .error .notFound

/-- The absolute path of a place. -/
def pathOf (place : List String) : String :=
  Path.ofNames true place

/-- What stands at a path. -/
def kind? (tree : FileTree) (path : String) : Option FileKind :=
  match tree.find path with
  | .ok (_, .directory) => some .directory
  | .ok (_, .file _) => some .file
  | .error _ => none

/-- The content of the file at a path. -/
def readText (tree : FileTree) (path : String) : Except FileFault String := do
  match ← tree.find path with
  | (_, .directory) => .error .isDirectory
  | (_, .file content) =>
      match String.fromUTF8? content with
      | some text => return text
      | none => .error .notText

/-- The absolute path of what stands at a path. -/
def canonicalize (tree : FileTree) (path : String) : Except FileFault String := do
  let (place, _) ← tree.find path
  return pathOf place

/-- The directory in which the last name of a path stands, and that name. -/
def findParent (tree : FileTree) (path : String) :
    Except FileFault (List String × Option String) := do
  let (place, names) ← tree.start path
  let parent ← tree.walk place names.dropLast
  match tree.node? parent with
  | none => .error .notFound
  | some (.file _) => .error .notDirectory
  | some .directory => return (parent, names.getLast?)

/-- Make a directory in a directory that exists. -/
def makeDirectory (tree : FileTree) (path : String) : Except FileFault FileTree := do
  match ← tree.findParent path with
  | (_, none) => .error .alreadyExists
  | (parent, some name) =>
      if name = "." ∨ name = ".." then .error .alreadyExists
      else if nameLimit < name.utf8ByteSize then .error .nameTooLong
      else if (tree.node? (parent ++ [name])).isSome then .error .alreadyExists
      else return tree.put (parent ++ [name]) .directory

/-- Make sure that a file stands at a path, and create it if it is missing. -/
def openLog (tree : FileTree) (path : String) : Except FileFault FileTree := do
  match ← tree.findParent path with
  | (_, none) => .error .isDirectory
  | (parent, some name) =>
      if name = "." ∨ name = ".." ∨ Path.endsWithSlash path then .error .isDirectory
      else if nameLimit < name.utf8ByteSize then .error .nameTooLong
      else
        match tree.node? (parent ++ [name]) with
        | some .directory => .error .isDirectory
        | some (.file _) => return tree
        | none => return tree.put (parent ++ [name]) (.file .empty)

/-- Append to the file at a path. -/
def append (tree : FileTree) (path text : String) : FileTree :=
  match tree.find path with
  | .ok (place, .file content) => tree.put place (.file (content ++ text.toUTF8))
  | _ => tree

/-- The paths below a place, relative to it and in ascending order; those of directories end with
a slash. -/
def listing (tree : FileTree) (place : List String) : List String :=
  let below := tree.nodes.filter fun entry =>
    place.isPrefixOf entry.1 && place.length < entry.1.length
  let paths := below.map fun entry =>
    let path := "/".intercalate (entry.1.drop place.length)
    match entry.2 with
    | .directory => path ++ "/"
    | .file _ => path
  paths.mergeSort fun former latter => ¬ latter < former

/-- The operations on a tree that is held as a state. -/
def fileSystem : FileSystem (StateM FileTree) where
  currentDirectory := return pathOf (← get).current
  kind? path := return (← get).kind? path
  readText path := return (← get).readText path
  makeDirectory path := modifyGet fun tree =>
    match tree.makeDirectory path with
    | .ok tree => (.ok (), tree)
    | .error fault => (.error fault, tree)
  canonicalize path := return (← get).canonicalize path
  openLog path := modifyGet fun tree =>
    match tree.openLog path with
    | .ok tree => (.ok (), tree)
    | .error fault => (.error fault, tree)
  append path text := modify fun tree => tree.append path text

/-- The tree with a directory and those above it. -/
def withDirectory (tree : FileTree) (path : String) : FileTree :=
  ((fileSystem.createDirectories path).run tree).2

/-- The tree with a file and the directories above it. -/
def withFile (tree : FileTree) (path : String) (content : ByteArray) : FileTree :=
  let tree := (Path.parent? path).elim tree tree.withDirectory
  match tree.findParent path with
  | .ok (parent, some name) => tree.put (parent ++ [name]) (.file content)
  | _ => tree

end FileTree

end CloudBilling
