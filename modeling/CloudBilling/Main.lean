import CloudBilling.Program

/-!
# The command line program

The program on the files of the machine. Nothing is decided here: the operations of the machine
are named, and the result of the run is handed over.
-/

namespace CloudBilling

/-- The fault that an error of the machine stands for. -/
def FileFault.ofError (error : IO.Error) : FileFault :=
  match error with
  | .noFileOrDirectory .. => .notFound
  | .alreadyExists .. => .alreadyExists
  | .inappropriateType _ code _ => if code = 21 then .isDirectory else .notDirectory
  | error => .other (toString error)

/-- The outcome of an operation of the machine on a path. -/
def attemptAt {α : Type} (path : String) (operation : IO α) : IO (Except FileFault α) := do
  if path.toList.contains '\x00' then return .error .nulInPath
  try
    return .ok (← operation)
  catch error =>
    return .error (.ofError error)

/-- The files of the machine. -/
def machineFiles : FileSystem IO where
  currentDirectory := return toString (← IO.currentDir)
  kind? path := do
    let found ← attemptAt path do
      return (← (← IO.FS.realPath path).metadata).type
    match found with
    | .ok .dir => return some .directory
    | .ok .file => return some .file
    | .ok _ => return some .other
    | .error _ => return none
  readText path := do
    match ← attemptAt path (IO.FS.readBinFile path) with
    | .error fault => return .error fault
    | .ok content =>
        match String.fromUTF8? content with
        | some text => return .ok text
        | none => return .error .notText
  makeDirectory path := attemptAt path (IO.FS.createDir path)
  canonicalize path := attemptAt path do
    return toString (← IO.FS.realPath path)
  openLog path := attemptAt path do
    let _handle ← IO.FS.Handle.mk path .append
  append path text := do
    let handle ← IO.FS.Handle.mk path .append
    handle.putStr text

end CloudBilling

/-- Run the program on the files of the machine. -/
def main (arguments : List String) : IO UInt32 := do
  let result ← CloudBilling.Program.run CloudBilling.machineFiles arguments
  for line in result.diagnostics do
    IO.eprintln line
  IO.print result.output
  return result.exitCode.toUInt32
