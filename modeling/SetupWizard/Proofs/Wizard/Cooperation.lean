/-
# Views that go along

A wizard has little trouble with views that go along with everything: all of them can be made, they
leave the switches alone, and they never object (`Crew.Cooperative`).  What they do then keeps
the place and the switches, and it fails for two reasons only: a refresh fails, or the validation of
a panel does not come to a result (`governs_troubleFree`).
-/
import SetupWizard.Proofs.Wizard.Crossing
import SetupWizard.Proofs.Wizard.Upkeep

namespace SetupWizard

open Attempt

variable {σ α : Type}

/-! ### Views that go along -/

/-- The hooks of the views leave the switches alone. -/
structure Hooks.SparesSwitches (hooks : Hooks σ) : Prop where
  validation {validation : Stage → Attempt Remark (Scene σ) Bool} :
    hooks.validation? = some validation → ∀ stage scene,
      (validation stage scene).state.navigation = scene.navigation
  beforeValidation (stage : Stage) (scene : Scene σ) :
    (hooks.beforeValidation stage scene).state.navigation = scene.navigation
  afterValidation (stage : Stage) (scene : Scene σ) :
    (hooks.afterValidation stage scene).state.navigation = scene.navigation
  save (stage : Stage) (scene : Scene σ) :
    (hooks.save stage scene).state.navigation = scene.navigation
  activate (stage : Stage) (scene : Scene σ) :
    (hooks.activate stage scene).state.navigation = scene.navigation
  deactivate (stage : Stage) (scene : Scene σ) :
    (hooks.deactivate stage scene).state.navigation = scene.navigation

/-- The views never object to being left or entered. -/
structure Hooks.NeverObject (hooks : Hooks σ) : Prop where
  activate (stage : Stage) (scene : Scene σ) : (hooks.activate stage scene).result = true
  deactivate (stage : Stage) (scene : Scene σ) : (hooks.deactivate stage scene).result = true

/-- All views can be made, they leave the switches alone, and they never object. -/
structure Crew.Cooperative (T : Crew σ) : Prop where
  create (panel : Panel) : ∃ memory, T.create panel = .ok memory
  sparesSwitches : T.hooks.SparesSwitches
  neverObject : T.hooks.NeverObject

/-- Views that only decide whether they are shown go along with everything. -/
lemma Crew.cooperative_of_idle (make : Panel → σ) (isVisible : σ → Panel → Bool)
    (canShow : σ → Panel → Environment → Bool) (catalog : Catalog) :
    Crew.Cooperative
      { create := fun panel => .ok (make panel), hooks := { isVisible, canShow }, catalog } where
  create panel := ⟨make panel, rfl⟩
  sparesSwitches := by
    constructor
    · intro validation h
      cases h
    · exact fun _ _ => rfl
    · exact fun _ _ => rfl
    · exact fun _ _ => rfl
    · exact fun _ _ => rfl
    · exact fun _ _ => rfl
  neverObject := ⟨fun _ _ => rfl, fun _ _ => rfl⟩

/-- The refreshes that a journal tells of succeed. -/
def RefreshesSucceed (js : List Event) : Prop :=
  ∀ event ∈ js, ∀ env ∈ event.pass?, env.refresh.isOk = true

instance (js : List Event) : Decidable (RefreshesSucceed js) :=
  inferInstanceAs (Decidable (∀ event ∈ js, ∀ env ∈ event.pass?, env.refresh.isOk = true))

/-! ### Scenes -/

/-- The law that the switches are left alone and nothing fails if that is possible. -/
def calm (possible : Prop) : Law Remark (Scene σ) where
  ok scene _ scene' := scene'.navigation = scene.navigation
  err _ scene _ scene' := scene'.navigation = scene.navigation ∧ ¬possible
  ok_refl _ := rfl
  ok_trans h h' := h'.trans h
  err_trans h h' := ⟨h'.1.trans h, h'.2⟩

section Scene

variable {possible : Prop} {stage : Stage} {scene : Scene σ} {hooks : Hooks σ}

lemma calm_refresh (h : possible → scene.env.refresh.isOk = true) :
    Scene.refresh.Obeys (calm possible) scene := by
  rw [Obeys, Scene.refresh_apply]
  cases hrefresh : scene.env.refresh with
  | ok env => exact rfl
  | error e =>
    refine ⟨rfl, fun hpossible => ?_⟩
    have hok := h hpossible
    rw [hrefresh] at hok
    cases hok

lemma calm_runAll {ids : List String} (h : possible → ∀ id ∈ ids, id ∈ stage.catalog) :
    (stage.runAll ids).Obeys (calm possible) scene := by
  have hstate := stage.state_runAll ids scene
  unfold Obeys
  rcases hrun : stage.runAll ids scene with ⟨failure | passed, scene', remarks⟩
  · rw [hrun] at hstate
    refine ⟨congrArg Scene.navigation hstate, fun hpossible => ?_⟩
    obtain ⟨passed, hpassed⟩ : ∃ passed, (stage.runAll ids scene).result = .ok passed :=
      Stage.exists_runAll_eq_ok (h hpossible)
    rw [hrun] at hpassed
    cases hpassed
  · rw [hrun] at hstate
    exact congrArg Scene.navigation hstate

lemma Hooks.SparesSwitches.standardValidation (h : hooks.SparesSwitches) :
    (hooks.standardValidation stage).Obeys
      (calm (scene.env.refresh.isOk = true ∧ ∀ id ∈ stage.panel.validators, id ∈ stage.catalog))
      scene := by
  refine .bind (calm_refresh And.left) fun _ scene₁ _ _ _ => ?_
  refine .bind (h.beforeValidation stage scene₁ :) fun _ scene₂ _ _ _ => ?_
  refine .bind (calm_runAll And.right) fun passed scene₃ _ _ _ => ?_
  cases passed with
  | true => exact .map _ (h.afterValidation stage scene₃ :)
  | false => exact .pure false scene₃

lemma Hooks.SparesSwitches.commit (h : hooks.SparesSwitches) :
    (hooks.commit stage).Obeys (calm (scene.env.refresh.isOk = true)) scene := by
  refine .bind (calm_refresh id) fun _ scene₁ _ _ _ => ?_
  refine .bind (h.beforeValidation stage scene₁ :) fun _ scene₂ _ _ _ => ?_
  refine .bind (h.afterValidation stage scene₂ :) fun _ scene₃ _ _ _ => ?_
  exact .map _ (h.save stage scene₃ :)

/-- What the law says about the switches, whether the attempt succeeds or fails. -/
lemma navigation_of_calm {m : Attempt Remark (Scene σ) α} (hm : m.Obeys (calm possible) scene) :
    (m scene).state.navigation = scene.navigation := by
  rcases hreport : m scene with ⟨failure | a, scene', remarks⟩ <;> rw [Obeys, hreport] at hm
  · exact hm.1
  · exact hm

lemma exists_ok_of_calm {m : Attempt Remark (Scene σ) α} (hm : m.Obeys (calm possible) scene)
    (hpossible : possible) : ∃ a, (m scene).result = .ok a := by
  rcases hreport : m scene with ⟨failure | a, scene', remarks⟩ <;> rw [Obeys, hreport] at hm
  · exact absurd hpossible hm.2
  · exact ⟨a, rfl⟩

lemma navigation_validate (h : hooks.SparesSwitches) (stage : Stage) (scene : Scene σ) :
    (hooks.validate stage scene).state.navigation = scene.navigation := by
  unfold Hooks.validate
  cases hvalidation : hooks.validation? with
  | none => exact navigation_of_calm h.standardValidation
  | some validation => exact h.validation hvalidation stage scene

end Scene

namespace Wizard

variable {T : Crew σ} {w w' w'' : Wizard σ} {i : Nat} {js ks : List Event}

/-! ### Trouble -/

/-- Wherever the environment can be refreshed, the validation of any panel comes to a result. -/
def Validates (T : Crew σ) (w : Wizard σ) : Prop :=
  ∀ panel ∈ w.panels, ∀ scene : Scene σ, scene.env.refresh.isOk = true →
    ∃ valid, (T.hooks.validate ⟨panel, T.catalog⟩ scene).result = .ok valid

instance : Decidable (Supplied T w) :=
  inferInstanceAs (Decidable (∀ p ∈ w.panels, ∀ id ∈ p.validators, id ∈ T.catalog))

lemma Validates.of_samePlace (h : Validates T w) (hplace : SamePlace w w') : Validates T w' := by
  rw [Validates, hplace.panels]
  exact h

/-- Views that validate in the standard way come to a result if all validators are known. -/
lemma validates_of_supplied (h : T.hooks.SparesSwitches) (hstandard : T.hooks.validation? = none)
    (hw : Supplied T w) : Validates T w := by
  intro panel hpanel scene hrefresh
  rw [Hooks.validate, hstandard]
  exact exists_ok_of_calm h.standardValidation ⟨hrefresh, hw panel hpanel⟩

/-- Place and switches are the same. -/
structure Steady (w w' : Wizard σ) : Prop where
  samePlace : SamePlace w w'
  navigation : w'.navigation = w.navigation

lemma Steady.refl (w : Wizard σ) : Steady w w := ⟨.refl w, rfl⟩

lemma Steady.trans (h : Steady w w') (h' : Steady w' w'') : Steady w w'' :=
  ⟨h.samePlace.trans h'.samePlace, h'.navigation.trans h.navigation⟩

/-- Nothing that a journal tells of gives a reason to fail: refreshes succeed, and if a panel is
validated at all, validation comes to a result. -/
structure Untroubled (T : Crew σ) (w : Wizard σ) (js : List Event) : Prop where
  refreshes : RefreshesSucceed js
  validations (i : Nat) (env : Environment) : .turned .validating i env ∈ js → Validates T w

lemma Untroubled.mono (h : Untroubled T w ks) (hplace : SamePlace w w')
    (hsub : ∀ event ∈ js, event ∈ ks) : Untroubled T w' js where
  refreshes event hevent := h.refreshes event (hsub event hevent)
  validations i env hmem := (h.validations i env (hsub _ hmem)).of_samePlace hplace

/-- The law that place and switches are kept, and that nothing fails as long as all goes
smoothly. -/
def troubleFree (T : Crew σ) : Law Event (Wizard σ) where
  ok w _ w' := Steady w w'
  err _ w js w' := Steady w w' ∧ ¬Untroubled T w js
  ok_refl := .refl
  ok_trans := .trans
  err_trans h h' := ⟨h.trans h'.1, fun huntroubled =>
    h'.2 (huntroubled.mono h.samePlace fun _ => List.mem_append_right _)⟩

lemma troubleFree_reach (hT : T.Cooperative) (hi : i < w.size) :
    (reach T i).Obeys (troubleFree T) w := by
  have h := reached T i w
  unfold Obeys
  cases hr : reach T i w
  rw [hr] at h
  cases h with
  | known => exact .refl w
  | created => exact ⟨samePlace_setView i _ w, rfl⟩
  | @refused panel _ _ hcreate =>
    -- All views can be made.
    obtain ⟨memory, hmemory⟩ := hT.create panel
    rw [hmemory] at hcreate
    cases hcreate
  | missing hle => exact absurd hi (Nat.not_lt.mpr hle)

lemma troubleFree_refresh : refresh.Obeys (troubleFree T) w := by
  rw [Obeys, refresh_apply]
  cases h : w.env.refresh with
  | ok env => exact ⟨⟨rfl, rfl⟩, rfl⟩
  | error e =>
    refine ⟨.refl w, fun huntroubled => ?_⟩
    have hok := huntroubled.refreshes _ List.mem_cons_self w.env rfl
    rw [h] at hok
    cases hok

/-- A view that leaves the switches alone while it acts, and does not fail without a reason. -/
lemma troubleFree_turn {occasion : Occasion} {act : Stage → Attempt Remark (Scene σ) α}
    (hT : T.Cooperative) (hi : i < w.size)
    (hnavigation : ∀ stage scene, (act stage scene).state.navigation = scene.navigation)
    (hact : ∀ panel ∈ w.panels, ∀ scene failure,
      (act ⟨panel, T.catalog⟩ scene).result = .error failure →
        ¬Untroubled T w [.turned occasion i scene.env]) :
    (turn T occasion i act).Obeys (troubleFree T) w := by
  refine .bind (troubleFree_reach hT hi) fun (panel, memory) v js hreach hv => ?_
  have hpanel : panel ∈ v.panels := List.mem_of_getElem? (panel?_of_reach hreach)
  have hswitches := hnavigation ⟨panel, T.catalog⟩ ⟨memory, v.env, v.navigation⟩
  have hreason := hact panel (hv.samePlace.panels ▸ hpanel) ⟨memory, v.env, v.navigation⟩
  unfold Obeys
  dsimp only
  rcases hreport : act ⟨panel, T.catalog⟩ ⟨memory, v.env, v.navigation⟩ with
    ⟨failure | a, scene, remarks⟩ <;> rw [hreport] at hswitches
  · refine ⟨⟨⟨panels_setView .., rfl⟩, hswitches⟩, fun huntroubled => ?_⟩
    refine hreason failure (congrArg Report.result hreport)
      (huntroubled.mono hv.samePlace.symm fun event hevent => ?_)
    rw [List.mem_singleton.mp hevent]
    exact List.mem_cons_self
  · exact ⟨⟨panels_setView .., rfl⟩, hswitches⟩

lemma governs_troubleFree (hT : T.Cooperative) : Governs T (troubleFree T) where
  samePlace h := h.samePlace
  samePlace_of_err h := h.1.samePlace
  reach := troubleFree_reach hT
  inquire visibleOnly panel memory := obeys_inquire visibleOnly panel memory _ ⟨⟨rfl, rfl⟩, rfl⟩
  refresh := troubleFree_refresh
  validate hi := by
    refine troubleFree_turn hT hi (navigation_validate hT.sparesSwitches) ?_
    intro panel hpanel scene failure hfail huntroubled
    have hvalidates := huntroubled.validations _ scene.env List.mem_cons_self
    have hrefresh := huntroubled.refreshes _ List.mem_cons_self scene.env rfl
    obtain ⟨valid, hvalid⟩ := hvalidates panel hpanel scene hrefresh
    rw [hvalid] at hfail
    cases hfail
  commit hi := by
    refine troubleFree_turn hT hi
      (fun stage scene => navigation_of_calm hT.sparesSwitches.commit) ?_
    intro panel _ scene failure hfail huntroubled
    have hcalm : (T.hooks.commit ⟨panel, T.catalog⟩).Obeys _ scene := hT.sparesSwitches.commit
    have hrefresh := huntroubled.refreshes _ List.mem_cons_self scene.env rfl
    obtain ⟨committed, hcommitted⟩ := exists_ok_of_calm hcalm hrefresh
    rw [hcommitted] at hfail
    cases hfail
  save hi := troubleFree_turn hT hi hT.sparesSwitches.save fun _ _ _ _ hfail => by cases hfail
  leave hi :=
    troubleFree_turn hT hi hT.sparesSwitches.deactivate fun _ _ _ _ hfail => by cases hfail
  enter hi := troubleFree_turn hT hi hT.sparesSwitches.activate fun _ _ _ _ hfail => by cases hfail
  record hi := troubleFree_turn hT hi (fun _ _ => rfl) fun _ _ _ _ hfail => by cases hfail

/-! ### What comes of attempts and moves -/

lemma steady_of_obeys {m : Attempt Event (Wizard σ) α} (hm : m.Obeys (troubleFree T) w) :
    Steady w (m w).state := by
  rcases hreport : m w with ⟨failure | a, w', js⟩ <;> rw [Obeys, hreport] at hm
  · exact hm.1
  · exact hm

/-- No move changes the switches. -/
lemma navigation_of_moved {P : Nat → Prop}
    {report : Report Event (Wizard σ) (Except Failure Bool)}
    (h : Moved (troubleFree T) w P report) : report.state.navigation = w.navigation := by
  cases h with
  | stayed hok => exact hok.navigation
  | failed herr => exact herr.1.navigation
  | arrived _ _ _ hok =>
    rw [navigation_arrive]
    exact hok.navigation

/-- A move that succeeds changes nothing of the place and the switches but by arriving. -/
lemma exists_arrive_of_moved {P : Nat → Prop}
    {report : Report Event (Wizard σ) (Except Failure Bool)} (h : Moved (troubleFree T) w P report)
    (hmoved : report.result = .ok true) :
    ∃ v new, Steady w v ∧ report.state = arrive w.index? new v := by
  cases h with
  | stayed => cases hmoved
  | failed => cases hmoved
  | arrived _ _ _ hok => exact ⟨_, _, hok, rfl⟩

/-- Where all goes smoothly, a move comes to a result. -/
lemma exists_eq_of_moved {P : Nat → Prop}
    {report : Report Event (Wizard σ) (Except Failure Bool)}
    (h : Moved (troubleFree T) w P report) (huntroubled : Untroubled T w report.journal) :
    ∃ moved w' js, report = ⟨.ok moved, w', js⟩ := by
  cases h with
  | stayed => exact ⟨false, _, _, rfl⟩
  | failed herr => exact absurd huntroubled herr.2
  | arrived => exact ⟨true, _, _, rfl⟩

end Wizard

end SetupWizard
