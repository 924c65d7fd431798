/-
# The command line

Reads the command line and the files it names, carries the command out and shows what came of
it.  Errors go to the standard error stream.
-/
import SetupWizard.Command.Execution

namespace SetupWizard

/-- How the program is used. -/
def usage : String :=
  "Usage: validate <DEFINITION> | panels <DEFINITION> | " ++
    "run <DEFINITION> [--replay <RECORD>] [--record <FILE>] [--skip-validation]"

/-- The files that a command reads. -/
def Command.inputs : Command → List String
  | .validate path => [path]
  | .panels path => [path]
  | .run path replay? _ _ => path :: replay?.toList

/-- The wording of what the system reports about a file. -/
def systemReport : IO.Error → String
  | .noFileOrDirectory _ _ _ => "No such file or directory (os error 2)"
  | .permissionDenied _ _ _ => "Permission denied (os error 13)"
  | .inappropriateType _ 21 _ => "Is a directory (os error 21)"
  | e => toString e

/-- The content of a file, or the reason why there is none. -/
def readFile (path : String) : IO (String × Except String ByteArray) := do
  match ← (IO.FS.readBinFile path).toBaseIO with
  | .ok bytes => return (path, .ok bytes)
  | .error e => return (path, .error (systemReport e))

/-- Carries a command out and gives the exit code. -/
def perform (command : Command) : IO UInt32 := do
  let contents ← command.inputs.mapM readFile
  let files : Command.Files :=
    { read := fun path => (contents.lookup path).getD (.error "not read")
      create := fun _ => .ok () }
  match command.execute files with
  | .error e =>
    IO.eprintln e.message
    return 1
  | .ok outcome =>
    IO.print outcome.output
    match outcome.file? with
    | none => return 0
    | some (path, text) =>
      match ← (IO.FS.writeFile path text).toBaseIO with
      | .ok () => return 0
      | .error e =>
        IO.eprintln (Command.Error.create path (systemReport e)).message
        return 1

end SetupWizard

/-- Carries out what the command line asks for. -/
def main (args : List String) : IO UInt32 := do
  match SetupWizard.Command.parse args with
  | .ok command => SetupWizard.perform command
  | .error refusal =>
    IO.eprintln SetupWizard.usage
    return refusal.exitCode.toUInt32
