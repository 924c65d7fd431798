/-
# Carrying out a command

What a command does depends on the files that it reads.  It does one thing after the other,
such as to print, to make a file and to write to it, and when it fails, what it has done up to
then stays.  In `SetupWizard.Proofs.Command.Delivery` it turns out that this is nothing.
-/
import SetupWizard.Command.Arguments
import SetupWizard.Definition.Load
import SetupWizard.Text.Terminal
import SetupWizard.Unattended

namespace SetupWizard.Command

/-- The files that a command can reach. -/
structure Files where
  /-- The content of the file at a path, or the reason why there is none. -/
  read : String → Except String ByteArray
  /-- Whether a file can be made at a path, or the reason why it cannot. -/
  create : String → Except String Unit

/-- Why a command fails. -/
inductive Error where
  /-- The definition cannot be loaded. -/
  | load (e : Definition.LoadError)
  /-- The definition does not pass its check. -/
  | unsound (defect : Definition.Defect)
  /-- The record to replay cannot be loaded. -/
  | replay (path : String) (failure : Failure)
  /-- The run does not come to its end. -/
  | run (e : RunError)
  /-- The file for the record cannot be made. -/
  | create (path reason : String)
deriving DecidableEq

namespace Error

/-- The wording of an error and of what lies behind it, outermost first. -/
def chain : Error → List String
  | .load e => e.chain
  | .unsound defect => [defect.message]
  | .replay path failure =>
    ("Failed to load installation record " ++ Text.quoted path) :: failure.chain
  | .run e => e.chain
  | .create path reason => ["Failed to create record file " ++ Text.quoted path, reason]

/-- The wording of an error as one line, as it is shown on a terminal. -/
def message (e : Error) : String := Text.onTerminal (joinChain e.chain)

end Error

/-- What a command leaves behind. -/
structure Outcome where
  /-- What is printed. -/
  output : String := ""
  /-- The file that is made, with what is written to it. -/
  file? : Option (String × String) := none
deriving DecidableEq

/-- What is done by a command.  It adds to what has been left behind before. -/
abbrev Work := EStateM Error Outcome

/-- Prints a text. -/
def print (text : String) : Work Unit :=
  modify fun left => { left with output := left.output ++ text }

/-- Makes the file at a path.  There is nothing in it yet. -/
def make (files : Files) (path : String) : Work Unit :=
  match files.create path with
  | .ok () => modify fun left => { left with file? := some (path, "") }
  | .error reason => throw (.create path reason)

/-- Writes a text to the file that was made. -/
def append (text : String) : Work Unit :=
  modify fun left =>
    { left with file? := left.file?.map fun (path, content) => (path, content ++ text) }

/-- Loads a definition. -/
def loadDefinition (files : Files) (path : String) : Except Error Definition :=
  match Definition.load path (files.read path) with
  | .ok d => .ok d
  | .error e => .error (.load e)

/-- Loads a definition that passes its check. -/
def loadSound (files : Files) (path : String) : Except Error Definition :=
  match loadDefinition files path with
  | .error e => .error e
  | .ok d =>
    match d.check with
    | .ok () => .ok d
    | .error defect => .error (.unsound defect)

/-- Reads a record from the content of a file, or from the reason why there is none. -/
def loadRecords (content : Except String ByteArray) : Except Failure (List PanelRecord) :=
  match content with
  | .ok bytes => PanelRecord.readBytes bytes
  | .error reason => .error (.io reason)

/-- What is printed for a definition that passes its check. -/
def approval (d : Definition) : String :=
  "✓ Definition is valid: " ++ toString d.panels.length ++ " panel(s), " ++
    toString d.derivations.length ++ " dynamic variable(s)\n"

/-- A text with blanks in front up to a width. -/
def padLeft (width : Nat) (text : String) : String :=
  String.ofList (List.replicate (width - text.length) ' ') ++ text

/-- A text with blanks behind it up to a width. -/
def padRight (width : Nat) (text : String) : String :=
  text ++ String.ofList (List.replicate (width - text.length) ' ')

/-- The line that is printed for the panel at a position. -/
def panelLine (panels : List Panel) (i : Nat) (panel : Panel) : String :=
  let step := match Panel.stepNumber? panels i with
    | some n => toString n
    | none => "-"
  padLeft 3 (toString i) ++ "  step " ++ padLeft 2 step ++ "  " ++ padRight 20 panel.id ++ " " ++
    padRight 24 panel.className ++ " " ++ panel.condition?.getD "" ++ "\n"

/-- What is printed for the panels of a definition. -/
def listing (panels : List Panel) : String :=
  String.join (panels.mapIdx (panelLine panels))

/-- Reads the record to replay, if there is one. -/
def loadReplay (files : Files) (replay? : Option String) : Except Error (List PanelRecord) :=
  match replay? with
  | none => .ok []
  | some path => (loadRecords (files.read path)).mapError (Error.replay path)

/-- Writes the record of a wizard as a document.  What the sink has put on its device is written
even if the sink fails then. -/
def writeRecord (T : Crew Texts) (w : Wizard Texts) (write : String → Work Unit) : Work Unit := do
  let report := Wizard.writeRecord T DocumentSink.sink (w, {})
  write (report.state.2.text?.getD "")
  match report.result with
  | .ok _ => return
  | .error failure => throw (.run (.failed failure))

/-- Delivers the record of a wizard.  If it goes into a file, the file is made first. -/
def deliver (files : Files) (T : Crew Texts) (w : Wizard Texts) : Option String → Work Unit
  | none => writeRecord T w print
  | some path => do
    make files path
    writeRecord T w append

/-- Runs a definition unattended and delivers the record of the run. -/
def runUnattended (files : Files) (path : String) (replay? record? : Option String)
    (validate : Bool) : Work Unit := do
  let d ← ofExcept (loadDefinition files path)
  let records ← ofExcept (loadReplay files replay?)
  let w ← ofExcept ((Unattended.run d records validate).mapError Error.run)
  deliver files (Unattended.toolkit d records) w record?

/-- Carries a command out. -/
def carryOut (files : Files) : Command → Work Unit
  | .validate path => do
    let d ← ofExcept (loadSound files path)
    print (approval d)
  | .panels path => do
    let d ← ofExcept (loadSound files path)
    print (listing d.panels)
  | .run path replay? record? skipValidation =>
    runUnattended files path replay? record? !skipValidation

/-- What a command leaves behind when it is carried out, if it does not fail. -/
def execute (files : Files) (command : Command) : Except Error Outcome :=
  match carryOut files command {} with
  | .ok () left => .ok left
  | .error e _ => .error e

end SetupWizard.Command
