import CloudBilling.Source

/-!
# Command lines

Three options take a value, which follows as the next argument or is attached to the option, and
three flags take none. An option is settled when the next option or flag is met, or at the end;
so a fault in its value is reported before a fault of what comes later, except that an argument
which is no option or flag at all is reported at once.
-/

namespace CloudBilling.CommandLine

/-- What a command line asks for. -/
structure Request where
  configurationPath : Option String
  integrationPath : Option String
  source : Source
  strict : Bool
  deriving DecidableEq, Repr

/-- Why a command line asks for nothing of the kind. -/
inductive Refusal where
  /-- It asks for help. -/
  | help
  /-- It asks for the version. -/
  | version
  /-- An argument is neither an option nor a value of one. -/
  | unknownArgument
  /-- An option has no value, or an empty one that must not be. -/
  | missingValue
  /-- An option or a flag is given twice. -/
  | repeated
  /-- A flag has a value. -/
  | unwantedValue
  /-- A value is none of those that an option can have. -/
  | rejectedValue (message : String)
  deriving DecidableEq, Repr

/-- An option, which takes a value. -/
inductive Setting where
  | configurationPath
  | integrationPath
  | source
  deriving DecidableEq, Repr

/-- An option or a flag. -/
inductive Switch where
  | setting (setting : Setting)
  | strict
  | help
  | version
  deriving DecidableEq, Repr

/-- The option or flag with a long name. -/
def Switch.ofName? : String → Option Switch
  | "configuration-file-path" => some (.setting .configurationPath)
  | "integration-file-path" => some (.setting .integrationPath)
  | "source" => some (.setting .source)
  | "strict" => some .strict
  | "help" => some .help
  | "version" => some .version
  | _ => none

/-- The option or flag with a short name. -/
def Switch.ofLetter? : Char → Option Switch
  | 'c' => some (.setting .configurationPath)
  | 'i' => some (.setting .integrationPath)
  | 'h' => some .help
  | 'V' => some .version
  | _ => none

/-- What has been read of a command line. -/
structure Progress where
  configurationPath : Option String
  integrationPath : Option String
  source : Option Source
  strict : Bool
  /-- An option that is not settled yet, and its value if that has been read. -/
  pending : Option (Setting × Option String)
  deriving DecidableEq, Repr

/-- A way through a command line. -/
abbrev Reading (α : Type) := Except Refusal α

namespace Progress

/-- Nothing has been read. -/
def start : Progress :=
  ⟨none, none, none, false, none⟩

/-- A path must not be empty. -/
def readPath (value : String) : Reading String :=
  if value = "" then .error .missingValue else .ok value

/-- The name of a source that documents can be from. -/
def readSource (value : String) : Reading Source :=
  match Source.ofName value with
  | .unknown =>
      .error (.rejectedValue (s!"unknown integration source \"{value}\", expected one of " ++
        "configController, multicloud, configfile or helm"))
  | source => .ok source

/-- Settle an option with its value. -/
def settle (progress : Progress) (setting : Setting) (value : Option String) :
    Reading Progress := do
  match value with
  | none => .error .missingValue
  | some value =>
      match setting with
      | .configurationPath =>
          if progress.configurationPath.isSome then .error .repeated
          else return { progress with configurationPath := some (← readPath value) }
      | .integrationPath =>
          if progress.integrationPath.isSome then .error .repeated
          else return { progress with integrationPath := some (← readPath value) }
      | .source =>
          if progress.source.isSome then .error .repeated
          else return { progress with source := some (← readSource value) }

/-- Settle the option that is pending. -/
def settlePending (progress : Progress) : Reading Progress :=
  match progress.pending with
  | none => .ok progress
  | some (setting, value) => { progress with pending := none }.settle setting value

/-- Meet a flag. -/
def meetFlag (progress : Progress) (refusal : Option Refusal) : Reading Progress := do
  let progress ← progress.settlePending
  match refusal with
  | some refusal => .error refusal
  | none => if progress.strict then .error .repeated else return { progress with strict := true }

/-- Meet an option, perhaps with a value attached. -/
def meetSetting (progress : Progress) (setting : Setting) (attached : Option String) :
    Reading Progress := do
  let progress ← progress.settlePending
  match attached with
  | some value => progress.settle setting (some value)
  | none => return { progress with pending := some (setting, none) }

/-- Meet an argument with a long name, perhaps with a value attached. -/
def meetLong (progress : Progress) (name : String) (attached : Option String) :
    Reading Progress :=
  match Switch.ofName? name, attached with
  | none, _ => .error .unknownArgument
  | some (.setting setting), attached => progress.meetSetting setting attached
  | some _, some _ => .error .unwantedValue
  | some .strict, none => progress.meetFlag none
  | some .help, none => progress.meetFlag (some .help)
  | some .version, none => progress.meetFlag (some .version)

/-- The value that is attached to a short name; an equals sign before it is no part of it. -/
def attachedTo : List Char → Option String
  | [] => none
  | '=' :: value => some (String.ofList value)
  | value => some (String.ofList value)

/-- Meet short names in one argument. -/
def meetShort (progress : Progress) : List Char → Reading Progress
  | [] => .ok progress
  | letter :: rest =>
      match Switch.ofLetter? letter with
      | none => .error .unknownArgument
      | some (.setting setting) => progress.meetSetting setting (attachedTo rest)
      | some .strict => do (← progress.meetFlag none).meetShort rest
      | some .help => progress.meetFlag (some .help)
      | some .version => progress.meetFlag (some .version)

/-- Meet an argument that is no option or flag: it is the value of an option that waits for
one. -/
def meetValue (progress : Progress) (value : String) : Reading Progress :=
  match progress.pending with
  | some (setting, none) => .ok { progress with pending := some (setting, some value) }
  | _ => .error .unknownArgument

/-- Meet an argument. -/
def meet (progress : Progress) (argument : String) : Reading Progress :=
  match argument.toList with
  | '-' :: '-' :: rest =>
      let name := rest.takeWhile (· ≠ '=')
      let attached := match rest.dropWhile (· ≠ '=') with
        | _ :: value => some (String.ofList value)
        | [] => none
      progress.meetLong (String.ofList name) attached
  | '-' :: first :: rest => progress.meetShort (first :: rest)
  | _ => progress.meetValue argument

/-- Meet arguments in order. Two dashes end them: nothing may follow. -/
def meetAll (progress : Progress) : List String → Reading Progress
  | [] => .ok progress
  | argument :: rest =>
      if argument = "--" then
        if rest.isEmpty then .ok progress else .error .unknownArgument
      else do (← progress.meet argument).meetAll rest

end Progress

/-- Read a command line, without the name of the program. -/
def read (arguments : List String) : Reading Request := do
  let progress ← (← Progress.start.meetAll arguments).settlePending
  return {
    configurationPath := progress.configurationPath
    integrationPath := progress.integrationPath
    source := progress.source.getD .configFile
    strict := progress.strict }

end CloudBilling.CommandLine
