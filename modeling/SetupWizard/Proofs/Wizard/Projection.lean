/-
# Views that remember more

A crew may give its views more to remember than another one and else let them do the same, for
instance to count what is asked of them.  It is then *projected* onto the other by the function that
forgets what its views remember besides.  As nothing depends on that, the wizards do the same:
a session with the one crew is projected onto the same session with the other, with equal
answers and equal journals (`session_mapViews`).
-/
import SetupWizard.Proofs.Wizard.Correspondence

namespace SetupWizard

open Attempt

variable {ω S S' σ τ α : Type} {f : τ → σ}

/-- The scene with the memory of its view changed by a function. -/
def Scene.mapMemory (f : τ → σ) (scene : Scene τ) : Scene σ :=
  { memory := f scene.memory, env := scene.env, navigation := scene.navigation }

/-- A hook does on the projected scene what another one does on the scene. -/
def Hook.Projects (f : τ → σ) (act : Hook σ α) (act' : Hook τ α) : Prop :=
  ∀ stage scene, act stage (scene.mapMemory f) = (act' stage scene).mapState (Scene.mapMemory f)

/-- The views of the one crew remember more than those of the other, and else do the same. -/
structure Crew.Projects (f : τ → σ) (T : Crew σ) (T' : Crew τ) : Prop where
  create (p : Panel) : T.create p = (T'.create p).map f
  catalog : T'.catalog = T.catalog
  isVisible (memory : τ) (p : Panel) : T.hooks.isVisible (f memory) p = T'.hooks.isVisible memory p
  canShow (memory : τ) (p : Panel) (env : Environment) :
    T.hooks.canShow (f memory) p env = T'.hooks.canShow memory p env
  standard : T.hooks.validation? = none
  standard' : T'.hooks.validation? = none
  beforeValidation : Hook.Projects f T.hooks.beforeValidation T'.hooks.beforeValidation
  afterValidation : Hook.Projects f T.hooks.afterValidation T'.hooks.afterValidation
  save : Hook.Projects f T.hooks.save T'.hooks.save
  activate : Hook.Projects f T.hooks.activate T'.hooks.activate
  deactivate : Hook.Projects f T.hooks.deactivate T'.hooks.deactivate
  recordData (stage : Stage) (scene : Scene τ) :
    T.hooks.recordData stage (scene.mapMemory f) = T'.hooks.recordData stage scene
  asked (memory : τ) (p : Panel) (env : Environment) :
    T.asked (f memory) p env = T'.asked memory p env
  recorded (stage : Stage) (scene : Scene τ) :
    T.recorded stage (scene.mapMemory f) = T'.recorded stage scene

/-! ### Hooks -/

lemma Hook.Projects.matches {act : Hook σ α} {act' : Hook τ α} (h : Hook.Projects f act act')
    (stage : Stage) :
    (ofStep (act stage)).Matches (.image (Scene.mapMemory f)) (ofStep (act' stage)) := by
  refine matches_image_iff.mpr fun scene => ?_
  rw [ofStep_apply, ofStep_apply, h stage scene]
  rfl

lemma Scene.matches_refresh :
    (Scene.refresh (σ := σ)).Matches (.image (mapMemory f)) Scene.refresh := by
  refine matches_image_iff.mpr fun scene => ?_
  have henv : (scene.mapMemory f).env = scene.env := rfl
  rw [refresh_apply, refresh_apply, henv]
  cases scene.env.refresh <;> rfl

lemma Stage.matches_runAll (stage : Stage) (ids : List String) :
    (stage.runAll ids).Matches (.image (Scene.mapMemory f)) (stage.runAll ids) := by
  induction ids with
  | nil => exact .pure true
  | cons id ids ih =>
    unfold Stage.runAll
    cases stage.catalog[id]? with
    | none => exact matches_image_iff.mpr fun _ => rfl
    | some validate =>
      refine .get_bind fun _ scene h => ?_
      obtain rfl := h
      refine .bind (matches_image_iff.mpr fun _ => rfl) fun _ => ?_
      have hstore : (scene.mapMemory f).env.store = scene.env.store := rfl
      rw [hstore]
      split
      · exact ih
      · exact .pure false

namespace Crew.Projects

variable {T : Crew σ} {T' : Crew τ} (h : T.Projects f T')
include h

lemma validate (stage : Stage) :
    (T.hooks.validate stage).Matches (.image (Scene.mapMemory f)) (T'.hooks.validate stage) := by
  rw [Hooks.validate, Hooks.validate, h.standard, h.standard']
  refine Scene.matches_refresh.bind fun _ => (h.beforeValidation.matches stage).bind fun _ => ?_
  refine (stage.matches_runAll _).bind fun passed => ?_
  cases passed with
  | true => exact .map _ (h.afterValidation.matches stage)
  | false => exact .pure false

lemma commit (stage : Stage) :
    (T.hooks.commit stage).Matches (.image (Scene.mapMemory f)) (T'.hooks.commit stage) := by
  refine Scene.matches_refresh.bind fun _ => (h.beforeValidation.matches stage).bind fun _ => ?_
  exact (h.afterValidation.matches stage).bind fun _ => .map _ (h.save.matches stage)

lemma considers (memory : τ) (p : Panel) (env : Environment) (visibleOnly : Bool) :
    T.hooks.considers (f memory) p env visibleOnly =
      T'.hooks.considers memory p env visibleOnly := by
  rw [Hooks.considers, Hooks.considers, h.isVisible]

lemma shows (memory : τ) (p : Panel) (env : Environment) (visibleOnly : Bool) :
    T.hooks.shows (f memory) p env visibleOnly = T'.hooks.shows memory p env visibleOnly := by
  rw [Hooks.shows, Hooks.shows, h.considers, h.canShow]

lemma recordOf (stage : Stage) :
    (Wizard.recordOf T stage).Matches (.image (Scene.mapMemory f))
      (Wizard.recordOf T' stage) := by
  refine matches_image_iff.mpr fun scene => ?_
  rw [Wizard.recordOf_apply, Wizard.recordOf_apply, h.recordData, h.recorded]
  rfl

end Crew.Projects

/-! ### Wizards -/

namespace Wizard

/-- The wizard with the memories of its views changed by a function. -/
def mapViews (f : τ → σ) (w : Wizard τ) : Wizard σ where
  slots := w.slots.map fun slot => { panel := slot.panel, view? := slot.view?.map f }
  env := w.env
  navigation := w.navigation
  index? := w.index?

section MapViews

variable (f : τ → σ) (w : Wizard τ)

lemma getElem?_slots_mapViews (i : Nat) :
    (w.mapViews f).slots[i]? =
      (w.slots[i]?).map fun slot => { panel := slot.panel, view? := slot.view?.map f } :=
  List.getElem?_map ..

@[simp] lemma panels_mapViews : (w.mapViews f).panels = w.panels := by
  simp [panels, mapViews, Function.comp_def]

@[simp] lemma size_mapViews : (w.mapViews f).size = w.size := List.length_map ..

@[simp] lemma face_mapViews : (w.mapViews f).face = w.face := by
  rw [face, panels_mapViews]
  rfl

@[simp] lemma mapViews_ofPanels (panels : List Panel) (env : Environment) :
    (ofPanels panels env).mapViews f = ofPanels panels env := by
  simp [ofPanels, mapViews, Function.comp_def]

lemma setView_mapViews (i : Nat) (memory : τ) :
    (w.mapViews f).setView i (f memory) = (w.setView i memory).mapViews f := by
  suffices hslots : ((w.mapViews f).setView i (f memory)).slots =
      ((w.setView i memory).mapViews f).slots from
    congrArg (fun slots => { w.mapViews f with slots }) hslots
  refine List.ext_getElem? fun j => ?_
  rw [getElem?_slots_setView, getElem?_slots_mapViews, getElem?_slots_mapViews,
    getElem?_slots_setView]
  by_cases hij : i = j <;> cases w.slots[j]? <;> simp [hij]

lemma arrive_mapViews (old? : Option Nat) (new : Nat) :
    arrive old? new (w.mapViews f) = (arrive old? new w).mapViews f := by
  rw [arrive_eq, arrive_eq]
  refine congrArg (fun slots => ({ w.mapViews f with slots, index? := some new } : Wizard σ)) ?_
  refine List.ext_getElem? fun i => ?_
  simp [mapPanels, mapViews, Function.comp_def]

end MapViews

variable {T : Crew σ} {T' : Crew τ}

lemma reach_mapViews (h : T.Projects f T') (i : Nat) (w : Wizard τ) :
    reach T i (w.mapViews f) =
      ⟨(reach T' i w).result.map fun reached => (reached.1, f reached.2),
        (reach T' i w).state.mapViews f, (reach T' i w).journal⟩ := by
  have hslots := getElem?_slots_mapViews f w i
  have hreached := reached T' i w
  generalize reach T' i w = report at hreached
  cases hreached with
  | known hslot =>
    rw [hslot] at hslots
    rw [reach_apply, hslots]
    rfl
  | @created panel memory hslot hcreate =>
    rw [hslot] at hslots
    have hcreate' : T.create panel = .ok (f memory) := by
      rw [h.create, hcreate]
      rfl
    rw [reach_apply, hslots]
    simp only [Option.map_some, Option.map_none, hcreate', setView_mapViews]
    rfl
  | @refused panel failure hslot hcreate =>
    rw [hslot] at hslots
    have hcreate' : T.create panel = .error failure := by
      rw [h.create, hcreate]
      rfl
    rw [reach_apply, hslots]
    simp only [Option.map_some, Option.map_none, hcreate']
    rfl
  | missing hsize =>
    have hnone : w.slots[i]? = none := List.getElem?_eq_none hsize
    rw [hnone] at hslots
    rw [reach_apply, hslots]
    simp only [Option.map_none, size_mapViews]
    rfl

lemma matches_turn (h : T.Projects f T') {occasion : Occasion} {i : Nat}
    {act : Stage → Attempt Remark (Scene σ) α} {act' : Stage → Attempt Remark (Scene τ) α}
    (hact : ∀ stage, (act stage).Matches (.image (Scene.mapMemory f)) (act' stage)) :
    (turn T occasion i act).Matches (.image (mapViews f)) (turn T' occasion i act') := by
  refine matches_image_iff.mpr fun w => ?_
  have hreach := reach_mapViews h i w
  rcases hr : reach T' i w with ⟨failure | ⟨panel, memory⟩, v, js⟩
  · rw [hr] at hreach
    rw [turn_of_failed_reach hr, turn_of_failed_reach hreach]
    rfl
  · rw [hr] at hreach
    have hscene : act ⟨panel, T.catalog⟩ ⟨f memory, v.env, v.navigation⟩ =
        (act' ⟨panel, T.catalog⟩ ⟨memory, v.env, v.navigation⟩).mapState (Scene.mapMemory f) :=
      matches_image_iff.mp (hact ⟨panel, T.catalog⟩) ⟨memory, v.env, v.navigation⟩
    have hface : (v.mapViews f).env = v.env ∧ (v.mapViews f).navigation = v.navigation := ⟨rfl, rfl⟩
    rw [turn_of_reach hr, turn_of_reach hreach, h.catalog]
    dsimp only
    rw [hface.1, hface.2, hscene]
    generalize act' ⟨panel, T.catalog⟩ ⟨memory, v.env, v.navigation⟩ = report
    obtain ⟨result, scene, remarks⟩ := report
    have hview := setView_mapViews f v i scene.memory
    dsimp only [Report.mapState, Scene.mapMemory]
    rw [hview]
    rfl

lemma matches_refresh : (refresh (σ := σ)).Matches (.image (mapViews f)) refresh := by
  refine matches_image_iff.mpr fun w => ?_
  have henv : (w.mapViews f).env = w.env := rfl
  rw [refresh_apply, refresh_apply, henv]
  cases w.env.refresh <;> rfl

lemma matches_canShow (h : T.Projects f T') (i : Nat) (visibleOnly : Bool) :
    (canShow T i visibleOnly).Matches (.image (mapViews f)) (canShow T' i visibleOnly) := by
  refine matches_image_iff.mpr fun w => ?_
  have hreach := reach_mapViews h i w
  rw [canShow_eq, canShow_eq]
  rcases hr : reach T' i w with ⟨failure | ⟨panel, memory⟩, v, js⟩
  · rw [hr] at hreach
    rw [bind_of_error hr, bind_of_error hreach]
    rfl
  · rw [hr] at hreach
    have henv : (v.mapViews f).env = v.env := rfl
    have hinquired : inquired T visibleOnly panel (f memory) (v.mapViews f) =
        (inquired T' visibleOnly panel memory v).mapViews f := by
      rw [inquired, inquired, henv, h.considers, h.asked]
      split <;> rfl
    rw [bind_of_ok hr, bind_of_ok hreach]
    dsimp only
    rw [inquire_apply, inquire_apply, henv, h.shows, hinquired]
    rfl

lemma corresponds_image (h : T.Projects f T') : Corresponds (.image (mapViews f)) T T' where
  face := by
    rintro _ w rfl
    exact (face_mapViews f w).symm
  arrive := by
    rintro _ w old? new rfl
    exact arrive_mapViews f w old? new
  setEnv := by
    rintro _ w env rfl
    rfl
  setNavigation := by
    rintro _ w navigation rfl
    rfl
  refresh := matches_refresh
  canShow := matches_canShow h
  validate i := matches_turn h h.validate
  commit i := matches_turn h h.commit
  save i := matches_turn h h.save.matches
  leave i := matches_turn h h.deactivate.matches
  enter i := matches_turn h h.activate.matches
  record i := matches_turn h h.recordOf

section Calls

variable (h : T.Projects f T') (c : Call) (w : Wizard τ)
include h

lemma perform_mapViews :
    c.perform T (w.mapViews f) = (c.perform T' w).mapState (mapViews f) :=
  matches_image_iff.mp ((corresponds_image h).perform c) w

lemma state_perform_mapViews :
    (c.perform T (w.mapViews f)).state = (c.perform T' w).state.mapViews f :=
  congrArg Report.state (perform_mapViews h c w)

lemma exchange_mapViews : c.exchange T (w.mapViews f) = c.exchange T' w := by
  rw [Call.exchange, Call.exchange, perform_mapViews h]
  rfl

end Calls

/-- **A session is projected onto a session** with equal answers and equal journals. -/
theorem session_mapViews (h : T.Projects f T') (calls : List Call) (w : Wizard τ) :
    session T calls (w.mapViews f) = (session T' calls w).mapState (mapViews f) := by
  induction calls generalizing w with
  | nil => rfl
  | cons c cs ih =>
    have hcons {υ : Type} (T : Crew υ) (w : Wizard υ) : session T (c :: cs) w =
        ⟨(), (session T cs (c.perform T w).state).state,
          c.exchange T w :: (session T cs (c.perform T w).state).journal⟩ := rfl
    rw [hcons, hcons, state_perform_mapViews h, exchange_mapViews h, ih]
    rfl

end Wizard

end SetupWizard
