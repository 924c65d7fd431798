/-
# The course of an unattended run

An unattended run only moves forward, its views have nothing to say, and nobody touches the
switches.  What is left of the wizard is the list of the panels that have been entered and the
environment.  This file describes a run in these terms: a *course* is such a state, and the steps
of a run are attempts on courses.

The journal of a course has an entry for each validation and each panel that is entered, with the
environment in which this happens.
-/
import Mathlib.Tactic.Lemma
import SetupWizard.Unattended

namespace SetupWizard

namespace Definition

/-- The panel at a position is offered in an environment: it is visible and its condition holds. -/
def offers (d : Definition) (env : Environment) (i : Nat) : Bool :=
  (d.panels[i]?).any fun p => p.visible && p.condition?.all env.isTrue

/-- The positions behind a panel, or all positions. -/
def positionsAfter (d : Definition) : Option Nat → List Nat
  | none => List.range d.panels.length
  | some i => (List.range d.panels.length).drop (i + 1)

/-- The first panel behind a position that is offered in an environment. -/
def nextOffer? (d : Definition) (env : Environment) (old? : Option Nat) : Option Nat :=
  (d.positionsAfter old?).find? (d.offers env)

/-- What the validators of the panel at a position make of an environment. -/
def verdict (d : Definition) (env : Environment) (i : Nat) : Except Failure Bool :=
  match d.panels[i]? with
  | none => .ok true
  | some p => ((Stage.mk p d.catalog).runValidators (⟨(), env, {}⟩ : Scene Unit)).result

/-- The data that the panel at a position gets, if each panel has the given answers. -/
def dataAt (d : Definition) (answers : String → Texts) (i : Nat) : Texts :=
  match d.panels[i]? with
  | none => ∅
  | some p => answers p.id

/-- The environment after the panel at a position has put its data into the store. -/
def supply (d : Definition) (answers : String → Texts) (i : Nat) (env : Environment) :
    Environment :=
  match d.panels[i]? with
  | none => env
  | some p => env.mapStore (Replay.give (answers p.id).toList p.id)

end Definition

/-- The state of an unattended run. -/
structure Course where
  /-- The positions of the panels that have been entered, in order. -/
  trail : List Nat := []
  /-- What the panels share. -/
  env : Environment

namespace Course

variable (d : Definition) (answers : String → Texts)

/-- The position of the current panel. -/
def at? (x : Course) : Option Nat := x.trail.getLast?

/-- The panel to be entered next. -/
def target? (x : Course) : Option Nat := d.nextOffer? x.env x.at?

/-- The positions of the panels that are recorded: those that have been entered, and those that
the definition calls visited. -/
def recorded (x : Course) : List Nat :=
  (List.range d.panels.length).filter fun i =>
    (d.panels[i]?).any Panel.visited || x.trail.contains i

/-- The entry of the panel at a position in the record of the course. -/
def entryAt? (x : Course) (i : Nat) : Option PanelRecord :=
  (d.panels[i]?).map fun p =>
    { panel := p.id, data := Replay.currentValues (answers p.id) x.env.store }

/-- The record of the course. -/
def record (x : Course) : List PanelRecord :=
  (x.recorded d).filterMap (x.entryAt? d answers)

/-- Brings the derived variables up to date. -/
def refresh : Attempt Event Course Unit := fun x =>
  match x.env.refresh with
  | .ok env => ⟨.ok (), { x with env }, []⟩
  | .error e => ⟨.error (.refresh e), x, []⟩

/-- Asks the validators of a panel. -/
def judge (i : Nat) : Attempt Event Course Bool := fun x => ⟨d.verdict x.env i, x, []⟩

/-- Validates the data of the current panel, if there is one. -/
def check : Attempt Event Course Bool := do
  let x ← Attempt.get
  match x.at? with
  | none => return true
  | some i => do
    Attempt.write (.turned .validating i x.env)
    refresh
    judge d i

/-- The validation of the current panel, if it is wanted. -/
def approve (validate : Bool) : Attempt Event Course Bool :=
  if validate then check d else pure true

/-- The refresh that comes with committing the data of the current panel, if it has not been
validated. -/
def contribute (validated : Bool) : Attempt Event Course Unit := do
  let x ← Attempt.get
  if x.at?.isSome && !validated then refresh else pure ()

/-- Lets a panel put its data into the store. -/
def activate (i : Nat) : Attempt Event Course Unit := fun x =>
  ⟨.ok (), { x with env := d.supply answers i x.env }, [.turned .entering i x.env]⟩

/-- Makes a panel the current one. -/
def enter (i : Nat) : Attempt Event Course Bool := do
  activate d answers i
  Attempt.modify fun x => { x with trail := x.trail ++ [i] }
  return true

/-- Goes forward to a panel. -/
def stride (validated : Bool) (i : Nat) : Attempt Event Course Bool := do
  contribute validated
  refresh
  enter d answers i

/-- Goes forward to the panel to be entered next, if there is one. -/
def stepForward (validated : Bool) : Attempt Event Course Bool := do
  let x ← Attempt.get
  match x.target? d with
  | some i => stride d answers validated i
  | none => return false

/-- Goes forward once the data of the current panel has been approved. -/
def next (validate : Bool) : Attempt Event Course Bool := do
  let approved ← approve d validate
  if approved then stepForward d answers validate else return false

/-- Goes forward as often as possible, but at most so many times, and counts the moves. -/
def advance (validate : Bool) : Nat → Attempt Event Course Nat
  | 0 => pure 0
  | limit + 1 => do
    if ← next d answers validate then return (← advance validate limit) + 1
    else return 0

/-- Says whether the run has come to its end. -/
def finish (validate : Bool) : Attempt Event Course Bool := do
  let x ← Attempt.get
  if (x.target? d).isSome then return false
  else approve d validate

/-- Goes forward as far as possible and says whether the run has come to its end there. -/
def proceed (validate : Bool) : Attempt Event Course Bool := do
  let _ ← advance d answers validate (d.panels.length + 1)
  finish d validate

/-- The course at the beginning of a run. -/
def start : Course := { env := d.environment }

end Course

end SetupWizard
