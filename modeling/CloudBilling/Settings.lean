import CloudBilling.Files.FileSystem
import CloudBilling.Files.Path
import CloudBilling.Settings.Draft
import CloudBilling.Settings.LevelFilter
import CloudBilling.Source
import CloudBilling.Text.Blank
import CloudBilling.Text.Substitute

/-!
# Settings

Settings name a base directory, what is logged and where, and the documents to load. They are
resolved against a file system step by step, and the first step that fails is reported: the base
directory, the two level filters, the name of the log file, and then each document in order.
-/

namespace CloudBilling

/-- A document to load and the source that it is from. -/
structure SourceFile where
  source : Source
  path : String
  deriving DecidableEq, Repr

/-- Settings that have been checked. -/
structure Settings where
  /-- The file that the settings were read from. -/
  filePath : String
  baseDirectory : String
  consoleFilter : LevelFilter
  fileFilter : LevelFilter
  logDirectory : String
  logFileName : String
  sources : List SourceFile
  deriving DecidableEq, Repr

namespace Settings

/-- The text that stands for the base directory in a path. -/
def placeholder : String := "\x7bBASE_DATA_DIRECTORY\x7d"

/-- A path as settings mean it: the base directory is put in for its placeholder, and what is
still relative after that is seen from the base directory. -/
def resolvePath (base path : String) : String :=
  let filled := Text.substitute placeholder.toList base.toList path.toList
  Path.join base (String.ofList filled)

/-- The settings file when none is named. -/
def defaultPath : String := "data/configuration.toml"

section Loading

variable {m : Type → Type} [Monad m]

/-- Something that may halt. -/
abbrev Loader (m : Type → Type) := ExceptT Halt m

/-- What a file operation gives, or its fault as the cause of a report. -/
def attempt {α : Type} (message : String) (operation : m (Except FileFault α)) : Loader m α := do
  match ← operation with
  | .ok value => return value
  | .error fault => throw (.reported ⟨message, [fault.message]⟩)

/-- Put a message around the halt of a part. -/
def within {α : Type} (message : String) (part : Loader m α) : Loader m α :=
  ExceptT.mk do
    match ← part.run with
    | .ok value => return .ok value
    | .error halt => return .error (halt.within message)

/-- The base directory, made if it is missing. -/
def resolveBase (files : FileSystem m) (path : String) : Loader m String := do
  match ← files.kind? path with
  | some .file | some .other =>
      throw (.ofMessage s!"Base data directory path {path} exists, but is not a directory!")
  | some .directory | none =>
      attempt "Failed to create missing base data directory." (files.createDirectories path)
      attempt "Failed to canonicalize base data directory path." (files.canonicalize path)

/-- The two level filters, after the name of the log file has been checked too. -/
def resolveLogging (draft : Draft) : Except Halt (LevelFilter × LevelFilter) := do
  let consoleFilter ← (LevelFilter.read draft.consoleFilter).mapError
    (·.within "Failed to parse field console_output_level_filter")
  let fileFilter ← (LevelFilter.read draft.fileFilter).mapError
    (·.within "Failed to parse field log_file_output_level_filter")
  if Text.isAllBlank draft.logFileName then
    throw (.ofMessage "Field log_file_name must not be empty.")
  return (consoleFilter, fileFilter)

/-- The document at a position in the list of sources. -/
def resolveSource (files : FileSystem m) (base : String) (index : Nat) (name path : String) :
    Loader m SourceFile := do
  let source := Source.ofName name
  if source = .unknown then
    throw (.ofMessage s!"Unknown integration source \"{name}\" in sources[{index}].")
  let path := resolvePath base path
  if (← files.kind? path) ≠ some .file then
    throw (.ofMessage s!"Integration file for sources[{index}] does not exist: {path}.")
  let path ← attempt s!"Failed to canonicalize integration file path for sources[{index}]."
    (files.canonicalize path)
  return { source, path }

/-- The documents from a position in the list of sources on. -/
def resolveSources (files : FileSystem m) (base : String) :
    Nat → List (String × String) → Loader m (List SourceFile)
  | _, [] => return []
  | index, (name, path) :: rest => do
      let first ← resolveSource files base index name path
      return first :: (← resolveSources files base (index + 1) rest)

/-- Check the settings of a file. -/
def resolve (files : FileSystem m) (filePath : String) (draft : Draft) : Loader m Settings := do
  let baseDirectory ← within "Failed to resolve base_paths table."
    (resolveBase files draft.baseDirectory)
  let (consoleFilter, fileFilter) ← within "Failed to resolve logging table."
    (ExceptT.mk (pure (resolveLogging draft)))
  let sources ← within "Failed to resolve integrations table."
    (resolveSources files baseDirectory 0 draft.sources)
  return {
    filePath, baseDirectory, consoleFilter, fileFilter, sources
    logDirectory := resolvePath baseDirectory draft.logDirectory
    logFileName := draft.logFileName }

/-- Load the settings in a file. -/
def load (files : FileSystem m) (path : String) : Loader m Settings := do
  let text ← attempt s!"Could not read configuration file at {path}." (files.readText path)
  match Draft.ofText? text with
  | none => throw (.ofMessage "Could not load configuration file!")
  | some draft =>
      let filePath ← attempt "Could not canonicalize configuration file path!"
        (files.canonicalize path)
      within "Failed to resolve configuration." (resolve files filePath draft)

/-- Load the settings in the default file. -/
def loadDefault (files : FileSystem m) : Loader m Settings := do
  let path := Path.join (← files.currentDirectory) defaultPath
  if (← files.kind? path).isNone then
    throw (.reported ⟨"Could not load configuration file at default path.",
      [s!"Could not find configuration.toml in data directory ({path})."]⟩)
  load files path

end Loading

end Settings

end CloudBilling
