/-
# Looking for a panel

Whoever looks for a panel reaches one view after the other and asks whether it is shown.  Nothing
else is done, so a law that is obeyed whenever a view is reached and asked is obeyed by the whole
search, by every question where the wizard can go, and by the gate that a move forward has to pass.
-/
import SetupWizard.Proofs.Wizard.Phases
import SetupWizard.Proofs.Wizard.Reach

namespace SetupWizard.Wizard

open Attempt

variable {σ : Type} {T : Crew σ} {L : Law Event (Wizard σ)} {w : Wizard σ}

/-- To reach a view and to ask it obeys a law, whichever view it is and from whatever state. -/
structure AdmitsLooking (T : Crew σ) (L : Law Event (Wizard σ)) : Prop where
  reach (i : Nat) (w : Wizard σ) : (reach T i).Obeys L w
  inquire (visibleOnly : Bool) (panel : Panel) (memory : σ) (w : Wizard σ) :
    (inquire T visibleOnly panel memory).Obeys L w

/-- The views of a toolkit only answer, so all that matters is how they are reached. -/
lemma AdmitsLooking.of_toolkit {T : Toolkit σ} (h : ∀ i w, (Wizard.reach T i).Obeys L w) :
    AdmitsLooking T L := ⟨h, T.obeys_inquire⟩

namespace AdmitsLooking

variable (h : AdmitsLooking T L)
include h

lemma canShow (i : Nat) (visibleOnly : Bool) : (canShow T i visibleOnly).Obeys L w := by
  rw [canShow_eq]
  exact .bind (h.reach i w) fun (panel, memory) u _ _ _ => h.inquire visibleOnly panel memory u

lemma firstShown (visibleOnly : Bool) (is : List Nat) :
    (firstShown T visibleOnly is).Obeys L w := by
  induction is generalizing w with
  | nil => exact .pure none w
  | cons i is ih =>
    refine .bind (h.canShow i visibleOnly) fun shown u _ _ _ => ?_
    cases shown with
    | true => exact .pure (some i) u
    | false => exact ih

lemma findNext (visibleOnly : Bool) : (findNext T visibleOnly).Obeys L w :=
  .get_bind (h.firstShown visibleOnly w.ahead)

lemma findPrevious : (findPrevious T).Obeys L w := .get_bind (h.firstShown false w.behind)

lemma hasNext : (hasNext T).Obeys L w := .map _ (h.findNext false)

lemma hasPrevious : (hasPrevious T).Obeys L w := .map _ h.findPrevious

lemma isLast : (isLast T).Obeys L w := by
  refine .get_bind ?_
  split
  · exact .pure false w
  · exact .map _ (h.findNext true)

lemma isNextEnabled : (isNextEnabled T).Obeys L w := by
  refine .get_bind ?_
  split
  · exact h.hasNext
  · exact .pure false w

lemma isPreviousEnabled : (isPreviousEnabled T).Obeys L w := by
  refine .get_bind ?_
  split
  · exact h.hasPrevious
  · exact .pure false w

lemma gate (old? : Option Nat) (new : Nat) : (gate T old? new).Obeys L w := by
  unfold Wizard.gate
  split
  · exact h.isNextEnabled
  · exact .pure true w

end AdmitsLooking

end SetupWizard.Wizard
