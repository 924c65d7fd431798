/-
# Recording a run

At the end of a run the wizard asks the views of all visited panels for the data to be recorded
and hands the record over to a sink.
-/
import SetupWizard.Wizard
import SetupWizard.Record.Sink

namespace SetupWizard.Wizard

variable {σ τ : Type}

/-- The record of a panel, for which its view is asked.  The view may add derivations. -/
def recordOf (T : Crew σ) (stage : Stage) : Attempt Remark (Scene σ) PanelRecord := do
  let scene ← Attempt.get
  Attempt.modify fun scene =>
    { scene with env := scene.env.addDerivations (T.recorded stage scene) }
  return { panel := stage.panel.id, data := T.hooks.recordData stage scene }

/-- Asks the views of the panels at the given positions for their data. -/
def recordAt (T : Crew σ) : List Nat → Attempt Event (Wizard σ) (List PanelRecord)
  | [] => pure []
  | i :: is => do
    let record ← turn T .recording i (recordOf T)
    return record :: (← recordAt T is)

/-- The record of the visited panels, in order. -/
def installationRecord (T : Crew σ) : Attempt Event (Wizard σ) (List PanelRecord) := do
  let w ← Attempt.get
  recordAt T w.visitedPositions

/-- Hands the record of the visited panels over to a sink and counts them. -/
def writeRecord (T : Crew σ) (sink : Sink τ) : Attempt Event (Wizard σ × τ) Nat :=
  fun (w, s) =>
    let report := installationRecord T w
    match report.result with
    | .error failure => ⟨.error failure, (report.state, s), report.journal⟩
    | .ok records =>
      match sink.writeAll records s with
      | (.ok (), s) => ⟨.ok records.length, (report.state, s), report.journal⟩
      | (.error failure, s) => ⟨.error failure, (report.state, s), report.journal⟩

end SetupWizard.Wizard
