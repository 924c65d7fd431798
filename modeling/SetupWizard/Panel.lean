/-
# Panels

A panel is one step of a wizard.  Its declaration says under which name and class it goes,
whether it counts as a visible step, on what condition it is shown and which validators the
data collected on it must pass.  A declared panel also remembers whether the wizard has
visited it.
-/
import SetupWizard.Store

namespace SetupWizard

/-- A panel as it is declared, with its place in the trail of visited panels. -/
structure Panel where
  /-- The name of the panel. -/
  id : String
  /-- What kind of view shows the panel. -/
  className : String
  /-- Whether the panel counts as a step that the user sees. -/
  visible : Bool := true
  /-- The condition under which the panel is shown. -/
  condition? : Option String := none
  /-- The validators of the panel, in the order in which they are run. -/
  validators : List String := []
  /-- Whether the panel belongs to the trail of visited panels. -/
  visited : Bool := false
deriving DecidableEq, Inhabited

/-- The switches with which panels enable the ways forward and back. -/
structure Navigation where
  /-- Whether the way forward is open. -/
  next : Bool := true
  /-- Whether the way back is open. -/
  previous : Bool := true
deriving DecidableEq, Inhabited

/-- What a validator makes of the data collected on a panel. -/
inductive Finding where
  /-- Nothing is wrong. -/
  | passed
  /-- Something is worth a warning. -/
  | warned (text : String)
  /-- Something is wrong. -/
  | rejected (text : String)
deriving DecidableEq

namespace Finding

/-- Whether the data is good enough to go on. -/
def isGood : Finding → Bool
  | .rejected _ => false
  | _ => true

/-- What the validator had to say. -/
def text? : Finding → Option String
  | .passed => none
  | .warned text => some text
  | .rejected text => some text

end Finding

/-- Whoever judges the data collected on a panel. -/
abbrev Validator := Panel → Store → Finding

/-- Validators by id. -/
abbrev Catalog := Std.ExtTreeMap String Validator

namespace Panel

/-! ### Step numbers

Visible panels are numbered from one in the order of the panels; other panels have no number. -/

/-- The number of visible panels. -/
def visibleCount (panels : List Panel) : Nat := panels.countP Panel.visible

/-- The step number of the panel at a position. -/
def stepNumber? (panels : List Panel) (i : Nat) : Option Nat :=
  match panels[i]? with
  | none => none
  | some panel => if panel.visible then some (visibleCount (panels.take (i + 1))) else none

/-- The position of the first panel with an id. -/
def position? (panels : List Panel) (id : String) : Option Nat :=
  panels.findIdx? fun panel => panel.id == id

@[simp] theorem visibleCount_nil : visibleCount [] = 0 := rfl

theorem visibleCount_cons (p : Panel) (ps : List Panel) :
    visibleCount (p :: ps) = visibleCount ps + if p.visible then 1 else 0 := by
  simp [visibleCount, List.countP_cons]

theorem visibleCount_append (ps qs : List Panel) :
    visibleCount (ps ++ qs) = visibleCount ps + visibleCount qs := by
  simp [visibleCount]

end Panel

end SetupWizard
