import CloudBilling.Toml.Reader

/-!
# Settings as they are written

What a settings document says, before it is checked against anything. A table of the document
can be written with names, or as an array of its values in order; what is not known is ignored.
-/

namespace CloudBilling.Settings

/-- The settings that a document says. -/
structure Draft where
  baseDirectory : String
  consoleFilter : String
  fileFilter : String
  logDirectory : String
  logFileName : String
  /-- The name and the file of each source. -/
  sources : List (String × String)
  deriving DecidableEq, Repr

namespace Draft

/-- The name of the log file when a document does not say one. -/
def defaultLogFileName : String := "cloud-configurer.log"

/-- The values of named fields in a table, or in an array that lists them in order. -/
def fieldsOf (names : List String) : Toml.Value → Option (List (Option Toml.Value))
  | .table entries => some (names.map fun name => entries.lookup name)
  | .array elements => some ((List.range names.length).map fun index => elements[index]?)
  | .moment _ => some (names.map fun _ => none)
  | _ => none

/-- A field that must be a text. -/
def text? : Option Toml.Value → Option String
  | some (.text content) => some content
  | _ => none

/-- A field that must be a text if it is there. -/
def textOr? (default : String) : Option Toml.Value → Option String
  | none => some default
  | field => text? field

/-- The base directory that a value says. -/
def baseDirectory? (field : Option Toml.Value) : Option String := do
  match ← fieldsOf ["base_data_directory_path"] (← field) with
  | [path] => text? path
  | _ => none

/-- The two filters, the directory and the file name that a value says. -/
def logging? (field : Option Toml.Value) : Option (String × String × String × String) := do
  let names :=
    ["console_output_level_filter", "log_file_output_level_filter", "log_file_output_directory",
     "log_file_name"]
  match ← fieldsOf names (← field) with
  | [console, file, directory, name] =>
      return (← text? console, ← text? file, ← text? directory,
        ← textOr? defaultLogFileName name)
  | _ => none

/-- The name and the file of a source that a value says. -/
def source? (value : Toml.Value) : Option (String × String) := do
  match ← fieldsOf ["source", "file_path"] value with
  | [name, path] => return (← text? name, ← text? path)
  | _ => none

/-- The sources that a value says. -/
def sources? : Option Toml.Value → Option (List (String × String))
  | none => some []
  | some value => do
      match ← fieldsOf ["sources"] value with
      | [some (.array elements)] => elements.mapM source?
      | [none] => some []
      | _ => none

/-- The settings that a document says. -/
def ofEntries? (entries : List (String × Toml.Value)) : Option Draft := do
  let baseDirectory ← baseDirectory? (entries.lookup "base_paths")
  let (consoleFilter, fileFilter, logDirectory, logFileName) ← logging? (entries.lookup "logging")
  let sources ← sources? (entries.lookup "integrations")
  return { baseDirectory, consoleFilter, fileFilter, logDirectory, logFileName, sources }

/-- The settings that a text says. -/
def ofText? (text : String) : Option Draft := do
  ofEntries? (← Toml.read? text)

end Draft

end CloudBilling.Settings
