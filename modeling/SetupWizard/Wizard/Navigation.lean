/-
# Moving about

A wizard is moved forward to the next panel that is shown, back to the previous one, or to a
panel by its id.  The way forward may be closed, the data of the current panel may be found
wanting, and a view may object to being left or entered; then the wizard stays where it is,
which is no failure.  Failures are reserved for derived variables that cannot be brought up to
date and for views that cannot be made.

A move forward puts the data of the panel that is left into the store, a move back does not.
The panels that were visited form a trail: a panel joins it when it is entered, and a move back
drops all panels behind the one that is entered.
-/
import SetupWizard.Wizard

namespace SetupWizard.Wizard

variable {σ : Type}

/-- The positions behind the current panel, or all positions if there is none. -/
def ahead (w : Wizard σ) : List Nat :=
  match w.index? with
  | none => List.range w.size
  | some i => (List.range w.size).drop (i + 1)

/-- The positions in front of the current panel, the nearest first. -/
def behind (w : Wizard σ) : List Nat :=
  match w.index? with
  | none => []
  | some i => (List.range i).reverse

/-- The next panel that is shown. -/
def findNext (T : Crew σ) (visibleOnly : Bool) : Attempt Event (Wizard σ) (Option Nat) := do
  let w ← Attempt.get
  firstShown T visibleOnly w.ahead

/-- The previous panel that is shown. -/
def findPrevious (T : Crew σ) : Attempt Event (Wizard σ) (Option Nat) := do
  let w ← Attempt.get
  firstShown T false w.behind

/-- Whether there is a panel to move forward to. -/
def hasNext (T : Crew σ) : Attempt Event (Wizard σ) Bool := do
  return (← findNext T false).isSome

/-- Whether there is a panel to move back to. -/
def hasPrevious (T : Crew σ) : Attempt Event (Wizard σ) Bool := do
  return (← findPrevious T).isSome

/-- Whether a panel is current and no visible step comes after it. -/
def isLast (T : Crew σ) : Attempt Event (Wizard σ) Bool := do
  let w ← Attempt.get
  match w.index? with
  | none => return false
  | some _ => return (← findNext T true).isNone

/-- Whether the way forward is open and leads anywhere. -/
def isNextEnabled (T : Crew σ) : Attempt Event (Wizard σ) Bool := do
  let w ← Attempt.get
  if w.navigation.next then hasNext T else return false

/-- Whether the way back is open and leads anywhere. -/
def isPreviousEnabled (T : Crew σ) : Attempt Event (Wizard σ) Bool := do
  let w ← Attempt.get
  if w.navigation.previous then hasPrevious T else return false

/-- Validates the data of the panel at a position. -/
def validateAt (T : Crew σ) (i : Nat) : Attempt Event (Wizard σ) Bool :=
  turn T .validating i T.hooks.validate

/-- Puts the data of the panel at a position into the store without validation. -/
def commitAt (T : Crew σ) (i : Nat) : Attempt Event (Wizard σ) Bool :=
  turn T .committing i T.hooks.commit

/-- Whether no panel is current or the data of the current panel is valid. -/
def isValid (T : Crew σ) : Attempt Event (Wizard σ) Bool := do
  let w ← Attempt.get
  match w.index? with
  | none => return true
  | some i => validateAt T i

/-- Puts the data of the panel at a position into the store as it is left. -/
def depart (T : Crew σ) (i : Nat) (validated : Bool) : Attempt Event (Wizard σ) Unit :=
  if validated then turn T .saving i fun stage => Attempt.ofStep (T.hooks.save stage)
  else do let _ ← commitAt T i

/-- Lets the view of the current panel go and brings that of a new one up; either may object. -/
def exchange (T : Crew σ) (old? : Option Nat) (new : Nat) :
    Attempt Event (Wizard σ) Bool := do
  let left ← match old? with
    | none => pure true
    | some old => turn T .leaving old fun stage => Attempt.ofStep (T.hooks.deactivate stage)
  if left then turn T .entering new fun stage => Attempt.ofStep (T.hooks.activate stage)
  else return false

/-- The wizard with the marks that the panels have once one has been entered: it joins the trail,
and a way back drops those behind it. -/
def mark (old? : Option Nat) (new : Nat) (w : Wizard σ) : Wizard σ :=
  let w := match old? with
    | some old =>
      if new < old then
        w.mapPanels fun i panel => if new < i then { panel with visited := false } else panel
      else w
    | none => w
  w.mapPanels fun i panel => if i = new then { panel with visited := true } else panel

/-- The end of a move.  While the views change places the new panel counts as the current one
already; if one of them objects or fails, the old one does again. -/
def occupy (T : Crew σ) (old? : Option Nat) (new : Nat) : Attempt Event (Wizard σ) Bool := do
  Attempt.modify (setIndex (some new))
  match ← Attempt.outcome (exchange T old? new) with
  | .ok true =>
    Attempt.modify (mark old? new)
    return true
  | .ok false =>
    Attempt.modify (setIndex old?)
    return false
  | .error failure =>
    Attempt.modify (setIndex old?)
    Attempt.fail failure

/-- Whether a move from the current panel to another leads forward. -/
def isForward (old? : Option Nat) (new : Nat) : Bool := old?.all fun old => old < new

/-- Moves to the panel at a position, unless the way there is closed or a view objects.  A move
forward needs the way forward to be open when it begins, and `validated` says that the data of
the panel that is left has been validated. -/
def switchTo (T : Crew σ) (new : Nat) (validated : Bool) : Attempt Event (Wizard σ) Bool := do
  let w ← Attempt.get
  if w.size ≤ new then return false
  let old? := w.index?
  let enabled ← if isForward old? new then isNextEnabled T else pure true
  if !enabled then return false
  match old? with
  | some old => if isForward old? new then depart T old validated
  | none => pure ()
  refresh
  occupy T old? new

/-- Moves forward to the next panel that is shown.  With `validate` the data of the current
panel must be valid. -/
def next (T : Crew σ) (validate : Bool) : Attempt Event (Wizard σ) Bool := do
  let valid ← if validate then isValid T else pure true
  if !valid then return false
  match ← findNext T false with
  | some i => switchTo T i validate
  | none => return false

/-- Moves back to the previous panel that is shown. -/
def previous (T : Crew σ) : Attempt Event (Wizard σ) Bool := do
  if !(← isPreviousEnabled T) then return false
  match ← findPrevious T with
  | some i => switchTo T i false
  | none => return false

/-- Moves to the panel with an id. -/
def goTo (T : Crew σ) (id : String) : Attempt Event (Wizard σ) Bool := do
  let w ← Attempt.get
  match w.position? id with
  | some i => switchTo T i false
  | none => return false

/-- Moves forward as often as possible, but at most so many times, and counts the moves. -/
def advance (T : Crew σ) (validate : Bool) : Nat → Attempt Event (Wizard σ) Nat
  | 0 => pure 0
  | limit + 1 => do
    if ← next T validate then return (← advance T validate limit) + 1
    else return 0

end SetupWizard.Wizard
