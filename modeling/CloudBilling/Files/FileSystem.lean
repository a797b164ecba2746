import CloudBilling.Files.Path

/-!
# File systems

What the program needs of a file system, as a record of operations. The program is written
against the record, so that it can be run on files and reasoned about without them.
-/

namespace CloudBilling

/-- Why an operation on a file failed. -/
inductive FileFault where
  | notFound
  | alreadyExists
  | notDirectory
  | isDirectory
  | nameTooLong
  /-- A path holds a character that no path may hold. -/
  | nulInPath
  /-- The content of a file is not UTF-8. -/
  | notText
  | other (message : String)
  deriving DecidableEq, Repr

/-- The text of a fault. -/
def FileFault.message : FileFault → String
  | .notFound => "No such file or directory (os error 2)"
  | .alreadyExists => "File exists (os error 17)"
  | .notDirectory => "Not a directory (os error 20)"
  | .isDirectory => "Is a directory (os error 21)"
  | .nameTooLong => "File name too long (os error 36)"
  | .nulInPath => "file name contained an unexpected NUL byte"
  | .notText => "stream did not contain valid UTF-8"
  | .other message => message

/-- What stands at a path. -/
inductive FileKind where
  | file
  | directory
  | other
  deriving DecidableEq, Repr

/-- The operations of a file system in some monad. Paths that are not absolute are seen from the
current directory. -/
structure FileSystem (m : Type → Type) where
  currentDirectory : m String
  /-- What stands at a path, if anything can be found there. -/
  kind? : String → m (Option FileKind)
  /-- The content of a file. -/
  readText : String → m (Except FileFault String)
  /-- Make a directory in one that exists. -/
  makeDirectory : String → m (Except FileFault Unit)
  /-- The absolute path, without detours, of something that exists. -/
  canonicalize : String → m (Except FileFault String)
  /-- Make sure that a file can be appended to, and create it if it is missing. -/
  openLog : String → m (Except FileFault Unit)
  /-- Append a text to a file. -/
  append : String → String → m Unit

namespace FileSystem

variable {m : Type → Type} [Monad m]

/-- Make a directory in one that exists, where a directory that is there already is as good. -/
def ensureDirectory (files : FileSystem m) (path : String) : m (Except FileFault Unit) := do
  match ← files.makeDirectory path with
  | .ok () => return .ok ()
  | .error fault =>
      if (← files.kind? path) = some .directory then return .ok () else return .error fault

/-- Make a directory and, as far as `levels` reaches, those above it that are missing. What was
made before a failure stays. -/
def createUpTo (files : FileSystem m) (levels : Nat) (path : String) :
    m (Except FileFault Unit) := do
  if path = "" then return .ok ()
  match ← files.ensureDirectory path with
  | .error .notFound =>
      match levels, Path.parent? path with
      | levels + 1, some parent =>
          match ← files.createUpTo levels parent with
          | .ok () => files.ensureDirectory path
          | .error fault => return .error fault
      | _, _ => return .error .notFound
  | outcome => return outcome

/-- Make a directory and those above it that are missing. An empty path needs none. -/
def createDirectories (files : FileSystem m) (path : String) : m (Except FileFault Unit) :=
  files.createUpTo (Path.names path).length path

end FileSystem

end CloudBilling
