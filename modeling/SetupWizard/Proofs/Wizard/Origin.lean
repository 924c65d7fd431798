/-
# Where failures come from

Apart from refresh errors and references to unknown validators, a wizard has no failures of its
own: whatever else it fails with is what the crew said when a view could not be made, or what
a view said that validates its data in its own way.  In particular the panels that a wizard looks
up by their positions are always there.

The main statement is `governs_accountable`: the law that the place is kept and that every
failure has its origin governs the wizards with any crew.
-/
import SetupWizard.Proofs.Wizard.Governed

namespace SetupWizard

open Attempt

variable {σ : Type}

/-- The failures that hooks and refreshes can end with by themselves. -/
inductive Failure.Own : Failure → Prop
  | refresh (e : RefreshError) : Own (.refresh e)
  | unknownValidator (panel validator : String) : Own (.unknownValidator panel validator)

/-! ### Failures of views -/

/-- The law that there are no failures but a wizard's own. -/
def ownFailures : Law Remark (Scene σ) where
  ok _ _ _ := True
  err failure _ _ _ := failure.Own
  ok_refl _ := trivial
  ok_trans _ _ := trivial
  err_trans _ h := h

/-- A failure that keeps to this law is a wizard's own. -/
lemma Attempt.Obeys.own {α : Type} {m : Attempt Remark (Scene σ) α} {scene : Scene σ}
    {failure : Failure} (h : m.Obeys ownFailures scene)
    (hfail : (m scene).result = .error failure) :
    failure.Own := by
  rcases hm : m scene with ⟨failure' | a, scene', remarks⟩
  · rw [Obeys, hm] at h
    rw [hm] at hfail
    cases hfail
    exact h
  · rw [hm] at hfail
    cases hfail

lemma Scene.refresh_own (scene : Scene σ) : Scene.refresh.Obeys ownFailures scene := by
  rw [Obeys, Scene.refresh_apply]
  cases scene.env.refresh with
  | ok env => exact trivial
  | error e => exact .refresh e

lemma ofStep_own {α : Type} (m : Step Remark (Scene σ) α) (scene : Scene σ) :
    (ofStep m).Obeys ownFailures scene := trivial

lemma Stage.runAll_own (stage : Stage) (ids : List String) (scene : Scene σ) :
    (stage.runAll ids).Obeys ownFailures scene := by
  induction ids generalizing scene with
  | nil => exact .pure true scene
  | cons id ids ih =>
    unfold Stage.runAll
    cases stage.catalog[id]? with
    | none => exact Failure.Own.unknownValidator stage.panel.id id
    | some validate =>
      refine .get_bind (.bind (ofStep_own _ _) fun _ scene' _ _ _ => ?_)
      split
      · exact ih scene'
      · exact .pure false scene'

lemma Hooks.standardValidation_own (hooks : Hooks σ) (stage : Stage) (scene : Scene σ) :
    (hooks.standardValidation stage).Obeys ownFailures scene := by
  refine .bind (Scene.refresh_own scene) fun _ scene₁ _ _ _ => ?_
  refine .bind (ofStep_own _ scene₁) fun _ scene₂ _ _ _ => ?_
  refine .bind (stage.runAll_own _ scene₂) fun passed scene₃ _ _ _ => ?_
  cases passed with
  | true => exact .map _ (ofStep_own _ scene₃)
  | false => exact .pure false scene₃

lemma Hooks.commit_own (hooks : Hooks σ) (stage : Stage) (scene : Scene σ) :
    (hooks.commit stage).Obeys ownFailures scene := by
  refine .bind (Scene.refresh_own scene) fun _ scene₁ _ _ _ => ?_
  refine .bind (ofStep_own _ scene₁) fun _ scene₂ _ _ _ => ?_
  refine .bind (ofStep_own _ scene₂) fun _ scene₃ _ _ _ => ?_
  exact .map _ (ofStep_own _ scene₃)

namespace Wizard

variable {T : Crew σ} {w w' : Wizard σ} {i : Nat} {js ks : List Event} {failure : Failure}

/-! ### Failures of wizards -/

/-- A failure that the crew came up with, on an occasion that is in the journal. -/
inductive Foreign (T : Crew σ) (w : Wizard σ) (js : List Event) (failure : Failure) : Prop
  /-- The view of a panel could not be made. -/
  | refused {i : Nat} {panel : Panel} : .refused i ∈ js → w.panel? i = some panel →
      T.create panel = .error failure → Foreign T w js failure
  /-- A view that validates its data in its own way failed. -/
  | validation {i : Nat} {panel : Panel} {scene : Scene σ}
      {validation : Stage → Attempt Remark (Scene σ) Bool} :
      .turned .validating i scene.env ∈ js → w.panel? i = some panel →
      T.hooks.validation? = some validation →
      (validation ⟨panel, T.catalog⟩ scene).result = .error failure → Foreign T w js failure

/-- The failures that an attempt of a wizard can end with. -/
inductive Origin (T : Crew σ) (w : Wizard σ) (js : List Event) (failure : Failure) : Prop
  | own : failure.Own → Origin T w js failure
  | foreign : Foreign T w js failure → Origin T w js failure

/-- A foreign failure stays one when there was more in the journal from the same place on. -/
lemma Foreign.mono (hplace : SamePlace w w') (h : Foreign T w' js failure)
    (hsub : ∀ event ∈ js, event ∈ ks) : Foreign T w ks failure := by
  cases h with
  | refused hmem hpanel hcreate =>
    exact .refused (hsub _ hmem) (hplace.panel? _ ▸ hpanel) hcreate
  | validation hmem hpanel hvalidation hfail =>
    exact .validation (hsub _ hmem) (hplace.panel? _ ▸ hpanel) hvalidation hfail

/-- The origin of a failure is still known when more has happened before it. -/
lemma Origin.after (hplace : SamePlace w w') (h : Origin T w' ks failure) :
    Origin T w (js ++ ks) failure := by
  cases h with
  | own h => exact .own h
  | foreign h => exact .foreign (h.mono hplace fun _ hmem => List.mem_append_right js hmem)

/-- That a panel is not there is nothing a wizard says by itself. -/
lemma Origin.foreign_of_panelIndex {index size : Nat} (h : Origin T w js (.panelIndex index size)) :
    Foreign T w js (.panelIndex index size) := by
  cases h with
  | own h => cases h
  | foreign h => exact h

/-- The law that the place is kept and every failure has its origin. -/
def accountable (T : Crew σ) : Law Event (Wizard σ) where
  ok w _ w' := SamePlace w w'
  err failure w js w' := SamePlace w w' ∧ Origin T w js failure
  ok_refl := SamePlace.refl
  ok_trans h h' := h.trans h'
  err_trans h h' := ⟨h.trans h'.1, h'.2.after h⟩

lemma accountable_reach (hi : i < w.size) : (reach T i).Obeys (accountable T) w := by
  have h := reached T i w
  unfold Obeys
  cases hr : reach T i w
  rw [hr] at h
  cases h with
  | known hslot => exact SamePlace.refl w
  | created hslot hcreate => exact ⟨panels_setView i _ w, rfl⟩
  | refused hslot hcreate =>
    refine ⟨SamePlace.refl w, .foreign (.refused List.mem_cons_self ?_ hcreate)⟩
    rw [panel?_eq, hslot]
    rfl
  | missing hle =>
    -- This is the failure that a wizard never comes up with by itself.
    exact absurd hi (Nat.not_lt.mpr hle)

lemma accountable_refresh : refresh.Obeys (accountable T) w := by
  rw [Obeys, refresh_apply]
  cases w.env.refresh with
  | ok env => exact ⟨rfl, rfl⟩
  | error e => exact ⟨SamePlace.refl w, .own (.refresh e)⟩

/-- Whatever a view does, it does not move the wizard; its failures have to be accounted for. -/
lemma accountable_turn {α : Type} {occasion : Occasion} {act : Stage → Attempt Remark (Scene σ) α}
    (hi : i < w.size)
    (hact : ∀ panel scene failure, w.panel? i = some panel →
      (act ⟨panel, T.catalog⟩ scene).result = .error failure →
      failure.Own ∨ Foreign T w [.turned occasion i scene.env] failure) :
    (turn T occasion i act).Obeys (accountable T) w := by
  have h := reached T i w
  unfold Obeys
  rcases hr : reach T i w with ⟨refusal | ⟨panel, memory⟩, v, js⟩
  · have hreach := accountable_reach (T := T) hi
    rw [Obeys, hr] at hreach
    rw [turn_of_failed_reach hr]
    exact hreach
  · rw [hr] at h
    -- The view has been reached, and so the panel is the one at the position.
    have hv : SamePlace w v ∧ w.panel? i = some panel := by
      cases h with
      | known hslot => exact ⟨.refl w, by rw [panel?_eq, hslot]; rfl⟩
      | created hslot _ => exact ⟨⟨panels_setView i _ w, rfl⟩, by rw [panel?_eq, hslot]; rfl⟩
    rw [turn_of_reach hr]
    rcases hscene : act ⟨panel, T.catalog⟩ ⟨memory, v.env, v.navigation⟩ with
      ⟨failure | a, scene', remarks⟩
    · have hplace : SamePlace v (v.setView i scene'.memory) := ⟨panels_setView i _ v, rfl⟩
      refine ⟨⟨hplace.panels.trans hv.1.panels, hv.1.index⟩, ?_⟩
      have horigin := hact panel ⟨memory, v.env, v.navigation⟩ failure hv.2
        (congrArg Report.result hscene)
      cases horigin with
      | inl hown => exact .own hown
      | inr hforeign =>
        refine .foreign (hforeign.mono (.refl w) fun event hmem => ?_)
        rw [List.mem_singleton.mp hmem]
        exact List.mem_append_right js List.mem_cons_self
    · have hplace : SamePlace v (v.setView i scene'.memory) := ⟨panels_setView i _ v, rfl⟩
      exact ⟨hplace.panels.trans hv.1.panels, hv.1.index⟩

/-- **The origin of failures.**  Whatever a wizard does keeps the place, up to an arrival, and
every failure is one of its own or one of the crew's. -/
theorem governs_accountable (T : Crew σ) : Governs T (accountable T) where
  samePlace h := h
  samePlace_of_err h := h.1
  reach := accountable_reach
  inquire visibleOnly panel memory := obeys_inquire visibleOnly panel memory _ ⟨rfl, rfl⟩
  refresh := accountable_refresh
  validate hi := accountable_turn hi fun panel scene failure hpanel hfail => by
    unfold Hooks.validate at hfail
    cases hvalidation : T.hooks.validation? with
    | none =>
      rw [hvalidation] at hfail
      exact .inl ((T.hooks.standardValidation_own _ scene).own hfail)
    | some validation =>
      rw [hvalidation] at hfail
      exact .inr (.validation List.mem_cons_self hpanel hvalidation hfail)
  commit hi := accountable_turn hi fun panel scene failure hpanel hfail =>
    .inl ((T.hooks.commit_own _ scene).own hfail)
  save hi := accountable_turn hi fun panel scene failure hpanel hfail => by
    cases hfail
  leave hi := accountable_turn hi fun panel scene failure hpanel hfail => by
    cases hfail
  enter hi := accountable_turn hi fun panel scene failure hpanel hfail => by
    cases hfail
  record hi := accountable_turn hi fun panel scene failure hpanel hfail => by
    cases hfail

end Wizard

end SetupWizard
