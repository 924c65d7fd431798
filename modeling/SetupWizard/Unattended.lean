/-
# Unattended runs

An unattended run takes its answers from a record and moves forward as long as it can.  It
succeeds when it has come to the end, with the data of the last panel valid unless validation
is skipped, and then has a record of its own.
-/
import SetupWizard.Definition.Build
import SetupWizard.Replay
import SetupWizard.Wizard.Navigation
import SetupWizard.Wizard.Recording

namespace SetupWizard

/-- Why an unattended run does not come to its end. -/
inductive RunError where
  /-- The definition does not pass its check. -/
  | unsound (defect : Definition.Defect)
  /-- The wizard failed. -/
  | failed (failure : Failure)
  /-- The wizard stopped at a panel, or before the first one. -/
  | stopped (panel? : Option String)
deriving DecidableEq

namespace RunError

/-- The wording of an error and of what lies behind it, outermost first. -/
def chain : RunError → List String
  | .unsound defect => [defect.message]
  | .failed failure => failure.chain
  | .stopped panel? =>
    ["Installation stopped at panel '" ++ panel?.getD "<none>" ++
      "': panel data is not valid"]

end RunError

namespace Unattended

/-- The views of an unattended run. -/
def toolkit (d : Definition) (records : List PanelRecord) : Toolkit Texts :=
  Replay.toolkit records d.catalog

/-- Moves forward as far as possible and says whether the run has come to its end there.  The
number of panels bounds the number of moves, so the limit is never reached. -/
def proceed (T : Crew Texts) (validate : Bool) : Attempt Event (Wizard Texts) Bool := do
  let w ← Attempt.get
  let _ ← Wizard.advance T validate (w.size + 1)
  if ← Wizard.hasNext T then return false
  else if validate then Wizard.isValid T
  else return true

/-- Runs a definition with the answers of a record.  The wizard is left as it is at the end,
or where it stopped. -/
def run (d : Definition) (records : List PanelRecord) (validate : Bool) :
    Except RunError (Wizard Texts) :=
  match d.build with
  | .error defect => .error (.unsound defect)
  | .ok w =>
    let report := proceed (toolkit d records) validate w
    match report.result with
    | .error failure => .error (.failed failure)
    | .ok true => .ok report.state
    | .ok false => .error (.stopped (report.state.current?.map Panel.id))

/-- The record of a run. -/
def record (d : Definition) (records : List PanelRecord) (validate : Bool) :
    Except RunError (List PanelRecord) :=
  match run d records validate with
  | .error e => .error e
  | .ok w =>
    match (Wizard.installationRecord (toolkit d records) w).result with
    | .error failure => .error (.failed failure)
    | .ok written => .ok written

end Unattended

end SetupWizard
