/-
# Taking a move back

While the views change places at the end of a move, the new panel counts as the current one already;
when a view objects or cannot be made, the old panel has to count as the current one again.  For the
views it makes no difference which panel that is (`exchange_setIndex`), and nothing before the
exchange moves the wizard.  So the index that is put back is the one with which the move began
(`occupy_of_vetoed`, `occupy_of_failed`), and a move is one that leaves the index alone up to the
arrival (`switchTo_eq`).
-/
import SetupWizard.Proofs.Correspondence
import SetupWizard.Proofs.Wizard.Looking

namespace SetupWizard.Wizard

open Attempt

variable {σ α : Type} {T : Crew σ} {w w' : Wizard σ} {js : List Event}

@[simp] lemma index?_setIndex (index? : Option Nat) (w : Wizard σ) :
    (w.setIndex index?).index? = index? := rfl

@[simp] lemma setIndex_setIndex (index? index?' : Option Nat) (w : Wizard σ) :
    (w.setIndex index?).setIndex index?' = w.setIndex index?' := rfl

/-- The index can be put back. -/
lemma setIndex_of_index {index? : Option Nat} (h : w.index? = index?) : w.setIndex index? = w := by
  cases h
  rfl

lemma mark_setIndex (old? index? : Option Nat) (new : Nat) (w : Wizard σ) :
    (w.setIndex index?).mark old? new = (w.mark old? new).setIndex index? := by
  unfold mark
  cases old? with
  | none => rfl
  | some old => by_cases h : new < old <;> simp only [h, if_true, if_false] <;> rfl

/-! ### The exchange of the views -/

section SetIndex

variable (T : Crew σ) (index? : Option Nat)

lemma matches_reach_setIndex (i : Nat) :
    (reach T i).Matches (.image (setIndex index?)) (reach T i) := by
  refine matches_image_iff.mpr fun w => ?_
  have hslots : (w.setIndex index?).slots = w.slots := rfl
  rw [reach_apply, reach_apply, hslots]
  split
  · rfl
  · next slot _ =>
    cases slot.view? with
    | some memory => rfl
    | none => cases T.create slot.panel <;> rfl

/-- A view acts in the same way whichever panel is the current one. -/
lemma matches_turn_setIndex (occasion : Occasion) (i : Nat)
    (act : Stage → Attempt Remark (Scene σ) α) :
    (turn T occasion i act).Matches (.image (setIndex index?)) (turn T occasion i act) :=
  (matches_reach_setIndex T index? i).bind fun _ => matches_image_iff.mpr fun _ => rfl

lemma matches_exchange_setIndex (old? : Option Nat) (new : Nat) :
    (exchange T old? new).Matches (.image (setIndex index?)) (exchange T old? new) := by
  have henter := matches_turn_setIndex T index? .entering new fun stage =>
    ofStep (T.hooks.activate stage)
  cases old? with
  | none => exact henter
  | some old =>
    refine (matches_turn_setIndex T index? .leaving old _).bind fun left => ?_
    cases left with
    | true => exact henter
    | false => exact .pure false

/-- The views change places in the same way whichever panel is the current one. -/
lemma exchange_setIndex (old? : Option Nat) (new : Nat) (w : Wizard σ) :
    exchange T old? new (w.setIndex index?) =
      (exchange T old? new w).mapState (setIndex index?) :=
  matches_image_iff.mp (matches_exchange_setIndex T index? old? new) w

end SetIndex

/-! ### What leaves the index alone -/

/-- An attempt leaves the index alone, however it ends. -/
abbrev KeepsIndex (m : Attempt Event (Wizard σ) α) : Prop :=
  ∀ index? w, m.Obeys (.keeping fun w : Wizard σ => w.index? = index?) w

namespace KeepsIndex

lemma index_eq {m : Attempt Event (Wizard σ) α} (h : KeepsIndex m)
    {result : Except Failure α} (hm : m w = ⟨result, w', js⟩) : w'.index? = w.index? := by
  have hkeeps := (h w.index? w).keeps rfl
  rwa [hm] at hkeeps

lemma reach (i : Nat) : KeepsIndex (reach T i) := by
  refine fun index? w => obeys_keeping_iff.mpr fun hw => ?_
  rw [reach_apply]
  split
  · exact hw
  · next slot _ =>
    cases slot.view? with
    | some memory => exact hw
    | none => cases T.create slot.panel <;> exact hw

lemma turn (occasion : Occasion) (i : Nat) (act : Stage → Attempt Remark (Scene σ) α) :
    KeepsIndex (turn T occasion i act) := fun index? w =>
  .bind (reach i index? w) fun _ _ _ _ _ => obeys_keeping_iff.mpr id

lemma exchange (old? : Option Nat) (new : Nat) : KeepsIndex (exchange T old? new) := by
  intro index? w
  have henter := turn (T := T) .entering new fun stage => ofStep (T.hooks.activate stage)
  cases old? with
  | none => exact henter index? w
  | some old =>
    refine .bind (turn .leaving old _ index? w) fun left u _ _ _ => ?_
    cases left with
    | true => exact henter index? u
    | false => exact .pure false u

lemma gate (old? : Option Nat) (new : Nat) : KeepsIndex (gate T old? new) := fun index? _ =>
  AdmitsLooking.gate ⟨fun i u => reach i index? u, fun visibleOnly panel memory u =>
    obeys_inquire visibleOnly panel memory u id⟩ old? new

lemma contribute (old? : Option Nat) (new : Nat) (validated : Bool) :
    KeepsIndex (contribute T old? new validated) := by
  intro index? w
  unfold Wizard.contribute depart
  split
  · split
    · split
      · exact turn .saving _ _ index? w
      · exact .bind (turn .committing _ _ index? w) fun _ u _ _ _ => .pure () u
    · exact .pure () w
  · exact .pure () w

lemma refresh : KeepsIndex (refresh (σ := σ)) := by
  refine fun index? w => obeys_keeping_iff.mpr fun hw => ?_
  rw [refresh_apply]
  cases w.env.refresh <;> exact hw

end KeepsIndex

/-! ### The end of a move -/

section Occupy

variable {old? : Option Nat} {new : Nat} {failure : Failure}

/-- The views change places while the new panel counts as the current one already. -/
lemma exchange_after_setIndex (T : Crew σ) (old? : Option Nat) (new : Nat) (w : Wizard σ) :
    outcome (exchange T old? new) (w.setIndex (some new)) =
      ⟨.ok (exchange T old? new w).result, (exchange T old? new w).state.setIndex (some new),
        (exchange T old? new w).journal⟩ := by
  rw [outcome_apply, exchange_setIndex]
  rfl

/-- The index that is put back is the one that the wizard has had all the time. -/
lemma setIndex_of_exchange (hold : w.index? = old?) {result : Except Failure Bool}
    (h : exchange T old? new w = ⟨result, w', js⟩) : w'.setIndex old? = w' :=
  setIndex_of_index (((KeepsIndex.exchange old? new).index_eq h).trans hold)

/-- **A failure of the views takes the move back**: the panel that was current is so again. -/
lemma occupy_of_failed (hold : w.index? = old?)
    (h : exchange T old? new w = ⟨.error failure, w', js⟩) :
    occupy T old? new w = ⟨.error failure, w', js⟩ := by
  have hexchange := exchange_after_setIndex T old? new w
  rw [h] at hexchange
  unfold occupy
  rw [bind_of_ok (modify_apply _ w), bind_of_ok hexchange]
  simp [bind_of_ok (modify_apply _ _), setIndex_of_exchange hold h]

/-- **An objection takes the move back**: the panel that was current is so again. -/
lemma occupy_of_vetoed (hold : w.index? = old?)
    (h : exchange T old? new w = ⟨.ok false, w', js⟩) :
    occupy T old? new w = ⟨.ok false, w', js⟩ := by
  have hexchange := exchange_after_setIndex T old? new w
  rw [h] at hexchange
  unfold occupy
  rw [bind_of_ok (modify_apply _ w), bind_of_ok hexchange]
  simp [bind_of_ok (modify_apply _ _), setIndex_of_exchange hold h]

/-- With the agreement of the views the new panel stays the current one. -/
lemma occupy_of_agreed (h : exchange T old? new w = ⟨.ok true, w', js⟩) :
    occupy T old? new w = ⟨.ok true, arrive old? new w', js⟩ := by
  have hexchange := exchange_after_setIndex T old? new w
  rw [h] at hexchange
  unfold occupy
  rw [bind_of_ok (modify_apply _ w), bind_of_ok hexchange]
  simp [bind_of_ok (modify_apply _ _), mark_setIndex, arrive]

/-- A move that begins with `old?` ends as if the index had been left alone up to the arrival. -/
theorem occupy_eq_conclude (hold : w.index? = old?) :
    occupy T old? new w = conclude T old? new w := by
  rcases h : exchange T old? new w with ⟨failure | _ | _, w', js⟩
  · rw [occupy_of_failed hold h, conclude_of_failed h]
  · rw [occupy_of_vetoed hold h, conclude_of_vetoed h]
  · rw [occupy_of_agreed h, conclude_of_agreed h]

end Occupy

/-! ### The whole move -/

/-- Nothing before the exchange moves the wizard, so the index that is put back is the one with
which the move began. -/
lemma index?_of_prepared {new : Nat} {validated : Bool} {v u : Wizard σ} {ks ls : List Event}
    {a : Unit} (hv : v.index? = w.index?)
    (hcontribute : contribute T w.index? new validated v = ⟨.ok a, u, ks⟩)
    (hrefresh : refresh u = ⟨.ok a, w', ls⟩) : w'.index? = w.index? :=
  (KeepsIndex.refresh.index_eq hrefresh).trans
    (((KeepsIndex.contribute w.index? new validated).index_eq hcontribute).trans hv)

/-- A move to a panel goes through its phases. -/
lemma switchTo_eq (T : Crew σ) (new : Nat) (validated : Bool) :
    switchTo T new validated = do
      let w ← Attempt.get
      if w.size ≤ new then return false
      else do
        let enabled ← gate T w.index? new
        if enabled then do
          contribute T w.index? new validated
          refresh
          conclude T w.index? new
        else return false := by
  funext w
  -- First with the end of the move as it is done, then with the end that leaves the index alone.
  have hphases : switchTo T new validated w = (if w.size ≤ new then pure false else do
      let enabled ← gate T w.index? new
      if enabled then do
        contribute T w.index? new validated
        refresh
        occupy T w.index? new
      else return false) w := by
    unfold switchTo
    rw [Attempt.get_bind]
    split
    · rfl
    · cases hf : isForward w.index? new <;>
      · simp only [gate, hf, Bool.false_eq_true, if_true, if_false]
        refine bind_congr_of_ok fun enabled v _ _ => ?_
        cases enabled with
        | false => rfl
        | true =>
          cases hi : w.index? with
          | none => rfl
          | some old =>
            rw [hi] at hf
            simp only [contribute, hf, Bool.false_eq_true, if_true, if_false]
            rfl
  rw [hphases, Attempt.get_bind]
  split
  · rfl
  · refine bind_congr_of_ok fun enabled v _ hgate => ?_
    have hv := (KeepsIndex.gate w.index? new).index_eq hgate
    cases enabled with
    | false => rfl
    | true =>
      exact bind_congr_of_ok fun _ u _ hcontribute => bind_congr_of_ok fun _ w' _ hrefresh =>
        occupy_eq_conclude (index?_of_prepared hv hcontribute hrefresh)

end SetupWizard.Wizard
