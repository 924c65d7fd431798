/-
# The phases of a move

A move to a panel passes a gate, lets the panel that is left contribute its data, refreshes, and
concludes with the exchange of the views.  Each phase is a function of its own here, so that what
holds of a move can be put together from what holds of its phases (`switchTo_eq`).
-/
import SetupWizard.Proofs.Wizard.Place

namespace SetupWizard.Wizard

variable {σ : Type}

/-- The gate that a move forward has to pass: the way forward must be open. -/
def gate (T : Crew σ) (old? : Option Nat) (new : Nat) : Attempt Event (Wizard σ) Bool :=
  if isForward old? new then isNextEnabled T else pure true

/-- What a move forward does for the panel that it leaves, if there is one. -/
def contribute (T : Crew σ) (old? : Option Nat) (new : Nat) (validated : Bool) :
    Attempt Event (Wizard σ) Unit :=
  match old? with
  | some old => if isForward old? new then depart T old validated else pure ()
  | none => pure ()

/-- The end of a move: the views change places, and the new panel is entered unless one of them
objects. -/
def conclude (T : Crew σ) (old? : Option Nat) (new : Nat) : Attempt Event (Wizard σ) Bool := do
  let agreed ← exchange T old? new
  if agreed then
    Attempt.modify (arrive old? new)
    return true
  else return false

lemma exchange_none (T : Crew σ) (new : Nat) :
    exchange T none new =
      turn T .entering new fun stage => Attempt.ofStep (T.hooks.activate stage) := rfl

section Conclude

variable {T : Crew σ} {old? : Option Nat} {new : Nat} {w w' : Wizard σ} {js : List Event}

lemma conclude_of_failed {failure : Failure}
    (h : exchange T old? new w = ⟨.error failure, w', js⟩) :
    conclude T old? new w = ⟨.error failure, w', js⟩ :=
  Attempt.bind_of_error h _

lemma conclude_of_vetoed (h : exchange T old? new w = ⟨.ok false, w', js⟩) :
    conclude T old? new w = ⟨.ok false, w', js⟩ :=
  (Attempt.bind_of_ok h _).trans (congrArg (Report.mk (Except.ok false) w') (List.append_nil js))

lemma conclude_of_agreed (h : exchange T old? new w = ⟨.ok true, w', js⟩) :
    conclude T old? new w = ⟨.ok true, arrive old? new w', js⟩ :=
  (Attempt.bind_of_ok h _).trans
    (congrArg (Report.mk (Except.ok true) (arrive old? new w')) (List.append_nil js))

end Conclude

/-- The validation of the current panel, if it is wanted. -/
def approve (T : Crew σ) (validate : Bool) : Attempt Event (Wizard σ) Bool :=
  if validate then isValid T else pure true

/-- The next panel is sought once the current one has been approved. -/
lemma next_eq (T : Crew σ) (validate : Bool) :
    next T validate = do
      let approved ← approve T validate
      if approved then do
        let target? ← findNext T false
        match target? with
        | some i => switchTo T i validate
        | none => return false
      else return false := by
  unfold next
  cases validate <;>
  · simp only [approve, Bool.false_eq_true, if_true, if_false]
    congr 1
    funext approved
    cases approved <;> rfl

end SetupWizard.Wizard
