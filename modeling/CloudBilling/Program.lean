import CloudBilling.CommandLine
import CloudBilling.Integration.Document
import CloudBilling.Integration.Merge
import CloudBilling.Json.Printer
import CloudBilling.Settings
import CloudBilling.Text.Terminal

/-!
# The program

A run reads its command line and its settings, opens its log file, loads every document, merges
their entries and prints the result with all secrets redacted. It prints everything or nothing:
a document that cannot be loaded, or an invalid entry where none is allowed, ends the run before
anything is printed.
-/

namespace CloudBilling.Program

/-- What a run leaves behind besides its files. -/
structure Result where
  exitCode : Nat
  output : String
  /-- What is said to the person who runs the program. -/
  diagnostics : List String
  deriving DecidableEq, Repr

/-- The exit code of a run that did its work. -/
def success : Nat := 0

/-- The exit code of a run that failed with a report. -/
def failure : Nat := 1

/-- The exit code of a run whose command line was refused. -/
def usage : Nat := 2

/-- The exit code of a run that broke off. -/
def abort : Nat := 101

/-- The name of the program. -/
def name : String := "cloud-configurer"

/-- The text that tells the version. -/
def versionText : String := name ++ " 0.1.0\n"

/-- The text that tells how to use the program. -/
def helpText : String :=
  "\n".intercalate
    ["Loads cloud integration documents, merges them by source priority and prints the sanitized result.",
     "",
     "Usage: cloud-configurer [OPTIONS]",
     "",
     "Options:",
     "  -c, --configuration-file-path <CONFIGURATION_FILE_PATH>",
     "          Configuration file to use. If unspecified, this defaults to ./data/configuration.toml",
     "  -i, --integration-file-path <INTEGRATION_FILE_PATH>",
     "          Additional integration document (JSON) to merge with the configured sources.",
     "      --source <SOURCE>",
     "          Source of the document passed with --integration-file-path. One of configController, multicloud, configfile or helm. [default: configfile]",
     "      --strict",
     "          If this flag is present, the program exits with an error when any merged integration fails validation.",
     "  -h, --help",
     "          Print help",
     "  -V, --version",
     "          Print version",
     ""]

/-- What is said about a command line that was refused. -/
def refusalText : CommandLine.Refusal → String
  | .help | .version => ""
  | .unknownArgument => "error: unexpected argument found"
  | .missingValue => "error: a value is required but none was supplied"
  | .repeated => "error: an argument cannot be used multiple times"
  | .unwantedValue => "error: unexpected value found"
  | .rejectedValue message => "error: " ++ message

/-- The report about a document that could not be loaded. -/
def loadReport (path : String) (cause : Failure) : Report :=
  ⟨s!"Failed to load integration file {path}.", cause.message :: cause.sources⟩

/-- Log how a valid or an invalid entry was found. -/
def reviewEntry (entry : Entry) : Logged Event Bool := do
  let place := s!"{entry.key} ({entry.integration.kind.name}, {entry.source.name})"
  match entry.validate with
  | .ok () =>
      logEvent .info .program s!"Integration {place} is valid."
      return true
  | .error problem =>
      logEvent .warn .program s!"Integration {place} is invalid: {problem.message}"
      return false

/-- Log how each entry was found, and count the invalid ones. -/
def review : List Entry → Logged Event Nat
  | [] => return 0
  | entry :: rest => do
      let valid ← reviewEntry entry
      let invalid ← review rest
      return if valid then invalid else invalid + 1

/-- What is printed for the entries of all documents. -/
def answer (strict : Bool) (entries : List Entry) : Logged Event (Except Report String) := do
  let merged ← Entry.merge entries
  logEvent .info .program s!"{merged.length} integration(s) after merging."
  let invalid ← review merged
  if strict && 0 < invalid then
    return .error (.ofMessage
      s!"{invalid} of {merged.length} merged integration(s) failed validation.")
  else
    let value ← Entry.listToSanitizedValue merged
    return .ok (value.pretty ++ "\n")

section Running

variable {m : Type → Type} [Monad m]

/-- Load documents in order, up to the first that cannot be loaded. -/
def loadAll (files : FileSystem m) :
    List SourceFile → m (Logged Event (Except Report (List Entry)))
  | [] => return (return .ok [])
  | file :: rest => do
      let attempt ← Integration.Document.load files file.source file.path
      match attempt.outcome with
      | .error cause => return ⟨.error (loadReport file.path cause), attempt.notes⟩
      | .ok entries =>
          let others ← loadAll files rest
          let loaded : Event := ⟨.info, .program,
            s!"Loaded {entries.length} integration(s) from {file.path} ({file.source.name})."⟩
          return ⟨others.value.map (entries ++ ·), attempt.notes ++ loaded :: others.notes⟩

/-- The documents of a run: those of the settings, and then that of the command line. -/
def documents (settings : Settings) (request : CommandLine.Request) : List SourceFile :=
  settings.sources ++ (request.integrationPath.map (⟨request.source, ·⟩)).toList

/-- Do the work of a run whose settings are known. -/
def work (files : FileSystem m) (settings : Settings) (request : CommandLine.Request) :
    m (Logged Event (Except Report String)) := do
  let loaded ← loadAll files (documents settings request)
  return do
    logEvent .info .program "Tracing initialized."
    match ← loaded with
    | .ok entries => answer request.strict entries
    | .error report => return .error report

/-- Load the settings that a command line names. -/
def loadSettings (files : FileSystem m) (request : CommandLine.Request) :
    Settings.Loader m Settings :=
  match request.configurationPath with
  | some path => Settings.load files path
  | none => Settings.loadDefault files

/-- The halt of a run that has nowhere to log. -/
def noLogFile : Halt :=
  .aborted "failed to create initial log file"

/-- Open the log file, in a directory that is made if it is missing. -/
def openLog (files : FileSystem m) (settings : Settings) : m (Except Halt String) := do
  match ← files.createDirectories settings.logDirectory with
  | .error fault =>
      return .error (.reported ⟨"Failed to initialize tracing.",
        [s!"Failed to create log file directory at {settings.logDirectory}.", fault.message]⟩)
  | .ok () =>
      let path := Path.join settings.logDirectory settings.logFileName
      if (← files.openLog path).isOk then return .ok path
      else
        match Path.parent? path with
        | none => return .error noLogFile
        | some parent =>
            if !(← files.createDirectories parent).isOk then return .error noLogFile
            else if (← files.openLog path).isOk then return .ok path
            else return .error noLogFile

/-- A log event as a line that is safe to show at a terminal. -/
def logLine (event : Event) : String :=
  s!"{event.level.name} {event.origin.target}: {Text.shown event.message}"

/-- The lines of the events that a filter keeps. -/
def logLines (filter : LevelFilter) (events : List Event) : List String :=
  (events.filter filter.keeps).map logLine

/-- The result of a run that ends with a report. -/
def fail (report : Report) (diagnostics : List String) : Result :=
  ⟨failure, "", diagnostics ++ report.chain⟩

/-- The result of a run that halts before it has done any work. -/
def halt : Halt → Result
  | .reported report => fail report []
  | .aborted message => ⟨abort, "", [message]⟩

/-- Do the work of a run whose command line is known. -/
def serve (files : FileSystem m) (request : CommandLine.Request) : m Result := do
  match ← (loadSettings files request).run with
  | .error reason => return halt (reason.within "Failed to load configuration file.")
  | .ok settings =>
      match ← openLog files settings with
      | .error reason => return halt reason
      | .ok logPath =>
          let done ← work files settings request
          let lines := logLines settings.fileFilter done.notes
          files.append logPath (String.join (lines.map (· ++ "\n")))
          let diagnostics := logLines settings.consoleFilter done.notes
          match done.value with
          | .ok output => return ⟨success, output, diagnostics⟩
          | .error report => return fail report diagnostics

/-- Run the program. -/
def run (files : FileSystem m) (arguments : List String) : m Result := do
  match CommandLine.read arguments with
  | .error .help => return ⟨success, helpText, []⟩
  | .error .version => return ⟨success, versionText, []⟩
  | .error refusal => return ⟨usage, "", [refusalText refusal]⟩
  | .ok request => serve files request

end Running

end CloudBilling.Program
