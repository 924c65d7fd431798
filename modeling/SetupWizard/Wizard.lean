/-
# Wizards

A wizard leads through its panels one after the other.  It owns the panels with their views,
which are made when they are first needed and kept from then on, the environment that the
panels share, the switches for the ways forward and back, and the position of the panel that
is current.  This file sets up the state of a wizard and how a view is reached; moving about
is the subject of `SetupWizard.Wizard.Navigation`.
-/
import SetupWizard.View

namespace SetupWizard

/-- A panel with its view, once that has been made. -/
structure Slot (σ : Type) where
  /-- The panel. -/
  panel : Panel
  /-- The memory of its view. -/
  view? : Option σ := none

/-- The state of a wizard whose views have memories of type `σ`. -/
structure Wizard (σ : Type) where
  /-- The panels in order, with their views. -/
  slots : List (Slot σ)
  /-- What the panels share. -/
  env : Environment
  /-- The switches for the ways forward and back. -/
  navigation : Navigation := {}
  /-- The position of the current panel. -/
  index? : Option Nat := none

/-- The occasions on which a wizard turns to a view. -/
inductive Occasion where
  /-- The data of the panel is validated. -/
  | validating
  /-- The data of the panel is put into the store without validation. -/
  | committing
  /-- The data of the panel, already validated, is put into the store. -/
  | saving
  /-- The panel is left. -/
  | leaving
  /-- The panel is entered. -/
  | entering
  /-- The data of the panel is asked for. -/
  | recording
  /-- Someone outside the wizard asks for the view. -/
  | asking
deriving DecidableEq

/-- What a wizard puts down in its journal. -/
inductive Event where
  /-- The view of the panel at a position was made. -/
  | created (index : Nat)
  /-- The view of the panel at a position could not be made. -/
  | refused (index : Nat)
  /-- The wizard turned to the view of a panel, in the given environment. -/
  | turned (occasion : Occasion) (index : Nat) (env : Environment)
  /-- The wizard brought the derived variables of the given environment up to date. -/
  | refreshed (env : Environment)
  /-- A remark was made. -/
  | remarked (remark : Remark)

namespace Wizard

variable {σ α : Type}

/-- The wizard with the given panels before it has been started. -/
def ofPanels (panels : List Panel) (env : Environment) : Wizard σ :=
  { slots := panels.map fun panel => { panel }, env }

/-- The number of panels. -/
def size (w : Wizard σ) : Nat := w.slots.length

/-- The panels in order. -/
def panels (w : Wizard σ) : List Panel := w.slots.map Slot.panel

/-- The panel at a position. -/
def panel? (w : Wizard σ) (i : Nat) : Option Panel := w.panels[i]?

/-- Whether the view of the panel at a position has been made. -/
def hasView (w : Wizard σ) (i : Nat) : Bool :=
  match w.slots[i]? with
  | some slot => slot.view?.isSome
  | none => false

/-- The current panel. -/
def current? (w : Wizard σ) : Option Panel := w.index?.bind w.panel?

/-- The position of the first panel with an id. -/
def position? (w : Wizard σ) (id : String) : Option Nat := Panel.position? w.panels id

/-- The step number of the panel at a position. -/
def stepNumber? (w : Wizard σ) (i : Nat) : Option Nat := Panel.stepNumber? w.panels i

/-- The number of visible panels. -/
def stepCount (w : Wizard σ) : Nat := Panel.visibleCount w.panels

/-- The positions of the visited panels. -/
def visitedPositions (w : Wizard σ) : List Nat :=
  (List.range w.size).filter fun i => (w.panel? i).any Panel.visited

/-- The wizard with the environment changed by a function. -/
def mapEnv (f : Environment → Environment) (w : Wizard σ) : Wizard σ := { w with env := f w.env }

/-- The wizard with the store changed by a function. -/
def mapStore (f : Store → Store) (w : Wizard σ) : Wizard σ := w.mapEnv (·.mapStore f)

/-- The wizard with the way forward opened or closed. -/
def setNext (open' : Bool) (w : Wizard σ) : Wizard σ :=
  { w with navigation := { w.navigation with next := open' } }

/-- The wizard with the way back opened or closed. -/
def setPrevious (open' : Bool) (w : Wizard σ) : Wizard σ :=
  { w with navigation := { w.navigation with previous := open' } }

/-- The wizard with another panel for the current one, or with none. -/
def setIndex (index? : Option Nat) (w : Wizard σ) : Wizard σ := { w with index? }

/-- The wizard with the memory of a view. -/
def setView (i : Nat) (memory : σ) (w : Wizard σ) : Wizard σ :=
  { w with slots := w.slots.modify i fun slot => { slot with view? := some memory } }

/-- The wizard with the panels changed by a function of their position. -/
def mapPanels (f : Nat → Panel → Panel) (w : Wizard σ) : Wizard σ :=
  { w with slots := w.slots.mapIdx fun i slot => { slot with panel := f i slot.panel } }

/-! ### Reaching a view -/

/-- Makes the view of the panel at a position, unless it has been made before. -/
def ensureView (T : Crew σ) (i : Nat) : Attempt Event (Wizard σ) Unit := fun w =>
  match w.slots[i]? with
  | none => ⟨.error (.panelIndex i w.size), w, []⟩
  | some slot =>
    match slot.view? with
    | some _ => ⟨.ok (), w, []⟩
    | none =>
      match T.create slot.panel with
      | .ok memory => ⟨.ok (), w.setView i memory, [.created i]⟩
      | .error failure => ⟨.error failure, w, [.refused i]⟩

/-- The panel at a position and the memory of its view, which is made if need be. -/
def reach (T : Crew σ) (i : Nat) : Attempt Event (Wizard σ) (Panel × σ) := do
  ensureView T i
  let w ← Attempt.get
  match w.slots[i]? with
  | some ⟨panel, some memory⟩ => return (panel, memory)
  | some ⟨panel, none⟩ => Attempt.fail (.panelView panel.id "view missing after creation")
  | none => Attempt.fail (.panelIndex i w.size)

/-- Turns to the view of the panel at a position and lets it act. -/
def turn (T : Crew σ) (occasion : Occasion) (i : Nat)
    (act : Stage → Attempt Remark (Scene σ) α) : Attempt Event (Wizard σ) α := do
  let (panel, memory) ← reach T i
  fun w =>
    let report := act ⟨panel, T.catalog⟩ ⟨memory, w.env, w.navigation⟩
    let w' := w.setView i report.state.memory
    ⟨report.result, { w' with env := report.state.env, navigation := report.state.navigation },
      .turned occasion i w.env :: report.journal.map .remarked⟩

/-- Brings the derived variables up to date. -/
def refresh : Attempt Event (Wizard σ) Unit := fun w =>
  let journal := w.env.evaluations.map fun e => Event.remarked (.evaluated e)
  match w.env.update with
  | .ok () env => ⟨.ok (), { w with env }, .refreshed w.env :: journal⟩
  | .error e env => ⟨.error (.refresh e), { w with env }, .refreshed w.env :: journal⟩

theorem refresh_apply (w : Wizard σ) :
    refresh w =
      let journal := .refreshed w.env :: w.env.evaluations.map fun e => .remarked (.evaluated e)
      match w.env.refresh with
      | .ok env => ⟨.ok (), { w with env }, journal⟩
      | .error e => ⟨.error (.refresh e), w, journal⟩ := by
  rw [refresh, Environment.update_eq]
  cases w.env.refresh <;> rfl

/-- Whether a panel is shown, of which it is known what its view remembers.  If the panel is
considered, its view is asked, and then it may add derivations. -/
def inquire (T : Crew σ) (visibleOnly : Bool) (panel : Panel) (memory : σ) :
    Attempt Event (Wizard σ) Bool := do
  let w ← Attempt.get
  if T.hooks.considers memory panel w.env visibleOnly then
    Attempt.modify (mapEnv (·.addDerivations (T.asked memory panel w.env)))
    return T.hooks.canShow memory panel w.env
  else return false

/-- Whether the panel at a position is shown. -/
def canShow (T : Crew σ) (i : Nat) (visibleOnly : Bool) : Attempt Event (Wizard σ) Bool := do
  ensureView T i
  let w ← Attempt.get
  match w.slots[i]? with
  | some ⟨panel, some memory⟩ => inquire T visibleOnly panel memory
  | _ => return false

/-- The first of the given positions whose panel is shown. -/
def firstShown (T : Crew σ) (visibleOnly : Bool) :
    List Nat → Attempt Event (Wizard σ) (Option Nat)
  | [] => pure none
  | i :: is => do
    if ← canShow T i visibleOnly then return some i
    else firstShown T visibleOnly is

end Wizard

end SetupWizard
