/-
# Reaching a view

The view of a panel is seen to first, which makes it unless that has been done before; then it is
looked up.  Whoever looks it up allows for a view that is missing although it has just been seen
to, and that never happens: what is found is the view that was there or was made a moment ago
(`exists_view_of_ensureView`).  So reaching a view can end in four ways (`Reached`), and a panel is
shown when its view has been reached and says so (`canShow_eq`).
-/
import SetupWizard.Proofs.Law
import SetupWizard.Proofs.Wizard.Place

namespace SetupWizard

open Attempt

namespace Wizard

variable {σ α : Type} {T : Crew σ} {w w' : Wizard σ} {i : Nat} {panel : Panel} {memory : σ}
  {js : List Event}

/-! ### Reaching -/

lemma getElem?_slots_of_created (h : w.slots[i]? = some ⟨panel, none⟩) (memory : σ) :
    (w.setView i memory).slots[i]? = some ⟨panel, some memory⟩ := by
  rw [getElem?_slots_setView, h, Option.map_some, if_pos rfl]

/-- **A view that has been seen to is there.** -/
lemma exists_view_of_ensureView (h : ensureView T i w = ⟨.ok (), w', js⟩) :
    ∃ panel memory, w'.slots[i]? = some ⟨panel, some memory⟩ := by
  unfold ensureView at h
  split at h
  · cases h
  · next slot hslot =>
    obtain ⟨panel, view?⟩ := slot
    cases view? with
    | some memory =>
      cases h
      exact ⟨panel, memory, hslot⟩
    | none =>
      dsimp only at h
      split at h
      · cases h
        exact ⟨panel, _, getElem?_slots_of_created hslot _⟩
      · cases h

lemma reach_of_ensureView (h : ensureView T i w = ⟨.ok (), w', js⟩)
    (hslot : w'.slots[i]? = some ⟨panel, some memory⟩) :
    reach T i w = ⟨.ok (panel, memory), w', js⟩ := by
  rw [reach, bind_of_ok h, Attempt.get_bind, hslot]
  exact congrArg (Report.mk (Except.ok (panel, memory)) w') (List.append_nil js)

/-- A view is reached as it is there, or as it is made. -/
lemma reach_apply (T : Crew σ) (i : Nat) (w : Wizard σ) :
    reach T i w =
      match w.slots[i]? with
      | none => ⟨.error (.panelIndex i w.size), w, []⟩
      | some slot =>
        match slot.view? with
        | some memory => ⟨.ok (slot.panel, memory), w, []⟩
        | none =>
          match T.create slot.panel with
          | .ok memory => ⟨.ok (slot.panel, memory), w.setView i memory, [.created i]⟩
          | .error failure => ⟨.error failure, w, [.refused i]⟩ := by
  rcases hslot : w.slots[i]? with _ | ⟨panel, _ | memory⟩
  · exact bind_of_error (by rw [ensureView, hslot]) _
  · dsimp only
    rcases hcreate : T.create panel with failure | memory
    · have hrefused : ensureView T i w = ⟨.error failure, w, [.refused i]⟩ := by
        simp only [ensureView, hslot, hcreate]
      exact bind_of_error hrefused _
    · have hcreated : ensureView T i w = ⟨.ok (), w.setView i memory, [.created i]⟩ := by
        simp only [ensureView, hslot, hcreate]
      exact reach_of_ensureView hcreated (getElem?_slots_of_created hslot memory)
  · exact reach_of_ensureView (by rw [ensureView, hslot]) hslot

/-- The ways in which reaching the view of the panel at `i` can end. -/
inductive Reached (T : Crew σ) (i : Nat) (w : Wizard σ) :
    Report Event (Wizard σ) (Except Failure (Panel × σ)) → Prop
  /-- The view has been made before. -/
  | known {panel : Panel} {memory : σ} : w.slots[i]? = some ⟨panel, some memory⟩ →
      Reached T i w ⟨.ok (panel, memory), w, []⟩
  /-- The view is made now. -/
  | created {panel : Panel} {memory : σ} : w.slots[i]? = some ⟨panel, none⟩ →
      T.create panel = .ok memory →
      Reached T i w ⟨.ok (panel, memory), w.setView i memory, [.created i]⟩
  /-- The view cannot be made. -/
  | refused {panel : Panel} {failure : Failure} : w.slots[i]? = some ⟨panel, none⟩ →
      T.create panel = .error failure → Reached T i w ⟨.error failure, w, [.refused i]⟩
  /-- There is no such panel. -/
  | missing : w.size ≤ i → Reached T i w ⟨.error (.panelIndex i w.size), w, []⟩

lemma reached (T : Crew σ) (i : Nat) (w : Wizard σ) : Reached T i w (reach T i w) := by
  rw [reach_apply]
  split
  · next h => exact .missing (List.getElem?_eq_none_iff.mp h)
  · next slot h =>
    obtain ⟨panel, view?⟩ := slot
    cases view? with
    | some memory => exact .known h
    | none =>
      dsimp only
      split
      · next memory hcreate => exact .created h hcreate
      · next failure hcreate => exact .refused h hcreate

lemma turn_of_reach {occasion : Occasion} {act : Stage → Attempt Remark (Scene σ) α}
    (h : reach T i w = ⟨.ok (panel, memory), w', js⟩) :
    turn T occasion i act w =
      let report := act ⟨panel, T.catalog⟩ ⟨memory, w'.env, w'.navigation⟩
      ⟨report.result,
        { w'.setView i report.state.memory with
          env := report.state.env, navigation := report.state.navigation },
        js ++ .turned occasion i w'.env :: report.journal.map .remarked⟩ :=
  bind_of_ok h _

lemma turn_of_failed_reach {occasion : Occasion} {act : Stage → Attempt Remark (Scene σ) α}
    {failure : Failure} (h : reach T i w = ⟨.error failure, w', js⟩) :
    turn T occasion i act w = ⟨.error failure, w', js⟩ :=
  bind_of_error h _

/-! ### Asking whether a panel is shown -/

/-- A panel is shown when its view has been reached and says so. -/
lemma canShow_eq (T : Crew σ) (i : Nat) (visibleOnly : Bool) :
    canShow T i visibleOnly =
      reach T i >>= fun (panel, memory) => inquire T visibleOnly panel memory := by
  funext w
  rcases h : ensureView T i w with ⟨failure | _, w', js⟩
  · have hreach : reach T i w = ⟨.error failure, w', js⟩ := bind_of_error h _
    rw [canShow, bind_of_error h, bind_of_error hreach]
  · obtain ⟨panel, memory, hslot⟩ := exists_view_of_ensureView h
    rw [canShow, bind_of_ok h, bind_of_ok (reach_of_ensureView h hslot), Attempt.get_bind, hslot]

/-- The wizard after a view has been asked. -/
def inquired (T : Crew σ) (visibleOnly : Bool) (panel : Panel) (memory : σ) (w : Wizard σ) :
    Wizard σ :=
  if T.hooks.considers memory panel w.env visibleOnly then
    w.mapEnv (·.addDerivations (T.asked memory panel w.env))
  else w

/-- The answer of a view, and what it leaves behind. -/
lemma inquire_apply (T : Crew σ) (visibleOnly : Bool) (panel : Panel) (memory : σ) (w : Wizard σ) :
    inquire T visibleOnly panel memory w =
      ⟨.ok (T.hooks.shows memory panel w.env visibleOnly),
        inquired T visibleOnly panel memory w, []⟩ := by
  rw [inquire, Attempt.get_bind, Hooks.shows, inquired]
  cases T.hooks.considers memory panel w.env visibleOnly <;> rfl

/-- To ask a view obeys a law that permits it to add derivations. -/
lemma obeys_inquire {L : Law Event (Wizard σ)} (visibleOnly : Bool) (panel : Panel) (memory : σ)
    (w : Wizard σ)
    (h : L.ok w [] (w.mapEnv (·.addDerivations (T.asked memory panel w.env)))) :
    (inquire T visibleOnly panel memory).Obeys L w := by
  rw [Obeys, inquire_apply, inquired]
  split
  · exact h
  · exact L.ok_refl w

end Wizard

namespace Environment

@[simp] lemma addDerivations_nil (env : Environment) : env.addDerivations [] = env := by
  rw [addDerivations, List.append_nil]

end Environment

namespace Toolkit

variable {σ : Type} (T : Toolkit σ)

/-- The views of a toolkit only answer. -/
@[simp] lemma inquired (visibleOnly : Bool) (panel : Panel) (memory : σ) (w : Wizard σ) :
    Wizard.inquired T visibleOnly panel memory w = w := by
  rw [Wizard.inquired, T.asked_eq_nil]
  simp [Wizard.mapEnv]

/-- A view of a toolkit is reached and says whether its panel is shown. -/
lemma canShow_eq (i : Nat) (visibleOnly : Bool) :
    Wizard.canShow T i visibleOnly = do
      let (panel, memory) ← Wizard.reach T i
      let w ← Attempt.get
      return T.hooks.shows memory panel w.env visibleOnly := by
  have hanswer (panel : Panel) (memory : σ) (w : Wizard σ) :
      Wizard.inquire T visibleOnly panel memory w =
        ⟨.ok (T.hooks.shows memory panel w.env visibleOnly), w, []⟩ := by
    rw [Wizard.inquire_apply, inquired]
  rw [Wizard.canShow_eq]
  congr 1
  funext (panel, memory) w
  exact hanswer panel memory w

/-- What only answers obeys every law. -/
lemma obeys_inquire {L : Law Event (Wizard σ)} (visibleOnly : Bool) (panel : Panel) (memory : σ)
    (w : Wizard σ) : (Wizard.inquire T visibleOnly panel memory).Obeys L w := by
  rw [Obeys, Wizard.inquire_apply, inquired]
  exact L.ok_refl w

end Toolkit

end SetupWizard
