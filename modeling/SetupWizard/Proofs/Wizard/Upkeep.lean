/-
# What views keep up

The hooks of a view may do anything to the environment of a wizard.  If there is a property of
environments that they keep, and refreshes keep it too, then it holds whenever the wizard brings the
derived variables up to date, whatever is called on it.  And where the validators of all panels are
in the catalogue and views validate in the standard way, no call fails for want of a validator.
-/
import SetupWizard.Proofs.Session
import SetupWizard.Proofs.Validation

namespace SetupWizard

open Attempt

variable {σ α β : Type} {P : Environment → Prop}

/-- The panel as it is declared, without the mark of having been visited. -/
def Panel.declared (p : Panel) : Panel := { p with visited := false }

/-- The environment of the refresh that an entry stands for.  To validate the data of a panel and to
commit it both begin with a refresh. -/
def Event.pass? : Event → Option Environment
  | .refreshed env => some env
  | .turned .validating _ env => some env
  | .turned .committing _ env => some env
  | _ => none

/-- The hooks of the views keep a property of the environment. -/
structure Hooks.Keep (hooks : Hooks σ) (P : Environment → Prop) : Prop where
  beforeValidation (stage : Stage) (scene : Scene σ) : P scene.env →
    P (hooks.beforeValidation stage scene).state.env
  afterValidation (stage : Stage) (scene : Scene σ) : P scene.env →
    P (hooks.afterValidation stage scene).state.env
  save (stage : Stage) (scene : Scene σ) : P scene.env → P (hooks.save stage scene).state.env
  activate (stage : Stage) (scene : Scene σ) : P scene.env →
    P (hooks.activate stage scene).state.env
  deactivate (stage : Stage) (scene : Scene σ) : P scene.env →
    P (hooks.deactivate stage scene).state.env

/-- The views keep a property of the environment, also by what they add when they are only asked. -/
structure Crew.Keep (T : Crew σ) (P : Environment → Prop) : Prop extends T.hooks.Keep P where
  asked (memory : σ) (panel : Panel) (env : Environment) : P env →
    P (env.addDerivations (T.asked memory panel env))
  recorded (stage : Stage) (scene : Scene σ) : P scene.env →
    P (scene.env.addDerivations (T.recorded stage scene))

/-- Views that do nothing of their own keep everything. -/
lemma Toolkit.plain_keep (catalog : Catalog) (P : Environment → Prop) :
    (Toolkit.plain catalog).Keep P where
  beforeValidation _ _ h := h
  afterValidation _ _ h := h
  save _ _ h := h
  activate _ _ h := h
  deactivate _ _ h := h
  asked _ _ env h := (congrArg P env.addDerivations_nil).mpr h
  recorded _ scene h := (congrArg P scene.env.addDerivations_nil).mpr h

/-- A call that changes the environment by itself keeps a property of it. -/
def Call.Keeps (P : Environment → Prop) : Call → Prop
  | .adjust f => ∀ env, P env → P (f env)
  | _ => True

/-- Refreshes keep a property of the environment. -/
def Environment.RefreshKeeps (P : Environment → Prop) : Prop :=
  ∀ env env' : Environment, env.refresh = .ok env' → P env → P env'

/-! ### Scenes -/

/-- The law that a property of the environment is kept and that no validator is missed where all
are supplied. -/
def tame (P : Environment → Prop) (supplied : Prop) : Law Remark (Scene σ) where
  ok scene _ scene' := P scene.env → P scene'.env
  err failure scene _ scene' := (P scene.env → P scene'.env) ∧
    (supplied → ∀ panel validator, failure ≠ .unknownValidator panel validator)
  ok_refl _ := id
  ok_trans h h' := h' ∘ h
  err_trans h h' := ⟨h'.1 ∘ h, h'.2⟩

section Scene

variable {supplied : Prop} {scene : Scene σ} {hooks : Hooks σ} {stage : Stage}

lemma Scene.refresh_tame (hrefresh : Environment.RefreshKeeps P) :
    Scene.refresh.Obeys (tame P supplied) scene := by
  rw [Obeys, Scene.refresh_apply]
  cases h : scene.env.refresh with
  | ok env => exact hrefresh _ _ h
  | error e => exact ⟨id, fun _ _ _ => Failure.noConfusion⟩

lemma ofStep_tame {m : Step Remark (Scene σ) α} (h : P scene.env → P (m scene).state.env) :
    (ofStep m).Obeys (tame P supplied) scene := h

/-- Validators that are all known come to a result. -/
lemma Stage.exists_runAll_eq_ok {ids : List String} (hids : ∀ id ∈ ids, id ∈ stage.catalog) :
    ∃ passed, (stage.runAll ids scene).result = .ok passed := by
  induction ids with
  | nil => exact ⟨true, rfl⟩
  | cons id ids ih =>
    rw [List.forall_mem_cons] at hids
    obtain ⟨validate, hvalidate⟩ :=
      Option.isSome_iff_exists.mp (Std.ExtTreeMap.mem_iff_isSome_getElem?.mp hids.1)
    rw [runAll_cons_of_known hvalidate]
    dsimp only
    split
    · exact ih hids.2
    · exact ⟨false, rfl⟩

lemma Stage.runAll_tame (ids : List String) :
    (stage.runAll ids).Obeys (tame P (∀ id ∈ ids, id ∈ stage.catalog)) scene := by
  have hstate := stage.state_runAll ids scene
  unfold Obeys
  rcases h : stage.runAll ids scene with ⟨failure | passed, scene', remarks⟩
  · rw [h] at hstate
    obtain rfl : scene' = scene := hstate
    refine ⟨id, fun hids => ?_⟩
    obtain ⟨passed, hpassed⟩ : ∃ passed, (stage.runAll ids scene').result = .ok passed :=
      Stage.exists_runAll_eq_ok hids
    rw [h] at hpassed
    cases hpassed
  · rw [h] at hstate
    obtain rfl : scene' = scene := hstate
    exact id

lemma Hooks.standardValidation_tame (hrefresh : Environment.RefreshKeeps P)
    (hkeep : hooks.Keep P) :
    (hooks.standardValidation stage).Obeys
      (tame P (∀ id ∈ stage.panel.validators, id ∈ stage.catalog)) scene := by
  refine .bind (Scene.refresh_tame hrefresh) fun _ scene₁ _ _ _ => ?_
  refine .bind (ofStep_tame (hkeep.beforeValidation stage scene₁)) fun _ scene₂ _ _ _ => ?_
  refine .bind (stage.runAll_tame _) fun passed scene₃ _ _ _ => ?_
  cases passed with
  | true => exact .map _ (ofStep_tame (hkeep.afterValidation stage scene₃))
  | false => exact .pure false scene₃

lemma Hooks.commit_tame (hrefresh : Environment.RefreshKeeps P) (hkeep : hooks.Keep P) :
    (hooks.commit stage).Obeys (tame P supplied) scene := by
  refine .bind (Scene.refresh_tame hrefresh) fun _ scene₁ _ _ _ => ?_
  refine .bind (ofStep_tame (hkeep.beforeValidation stage scene₁)) fun _ scene₂ _ _ _ => ?_
  refine .bind (ofStep_tame (hkeep.afterValidation stage scene₂)) fun _ scene₃ _ _ _ => ?_
  exact .map _ (ofStep_tame (hkeep.save stage scene₃))

end Scene

namespace Wizard

variable {T : Crew σ} {w w' w'' : Wizard σ} {i : Nat} {js ks : List Event} {failure : Failure}

/-! ### Wizards -/

/-- The validators of all panels are in the catalogue. -/
def Supplied (T : Crew σ) (w : Wizard σ) : Prop :=
  ∀ p ∈ w.panels, ∀ id ∈ p.validators, id ∈ T.catalog

/-- Where a failure is about an unknown validator, it is what the crew said when it could not
make a view. -/
def Excused (T : Crew σ) (failure : Failure) : Prop :=
  ∀ panel validator, failure = .unknownValidator panel validator →
    ∃ p, T.create p = .error failure

/-- The place is kept, and so is a property of the environment, which also holds at each refresh. -/
structure Upholds (P : Environment → Prop) (w : Wizard σ) (js : List Event) (w' : Wizard σ) :
    Prop where
  samePlace : SamePlace w w'
  env : P w.env → P w'.env
  passes : P w.env → ∀ event ∈ js, ∀ env ∈ event.pass?, P env

lemma Upholds.refl (w : Wizard σ) : Upholds P w [] w :=
  ⟨.refl w, id, fun _ _ h => absurd h List.not_mem_nil⟩

lemma Upholds.trans (h : Upholds P w js w') (h' : Upholds P w' ks w'') :
    Upholds P w (js ++ ks) w'' := by
  refine ⟨h.samePlace.trans h'.samePlace, h'.env ∘ h.env, fun hw event hevent => ?_⟩
  rcases List.mem_append.mp hevent with hevent | hevent
  · exact h.passes hw event hevent
  · exact h'.passes (h.env hw) event hevent

lemma Supplied.of_samePlace (h : Supplied T w) (hplace : SamePlace w w') : Supplied T w' := by
  rw [Supplied, hplace.panels]
  exact h

/-- The law that a property of the environment is upheld and no validator is missed where the
catalogue has all. -/
def upholding (T : Crew σ) (P : Environment → Prop) : Law Event (Wizard σ) where
  ok := Upholds P
  err failure w js w' := Upholds P w js w' ∧ (Supplied T w → Excused T failure)
  ok_refl := .refl
  ok_trans := .trans
  err_trans h h' := ⟨h.trans h'.1, fun hw => h'.2 (hw.of_samePlace h.samePlace)⟩

lemma upholds_of_quiet (hplace : SamePlace w w') (henv : w'.env = w.env)
    (hjs : ∀ event ∈ js, event.pass? = none) : Upholds P w js w' := by
  refine ⟨hplace, fun hw => henv ▸ hw, fun _ event hevent env henv => ?_⟩
  rw [hjs event hevent] at henv
  cases henv

/-- Making a view touches no environment, and only the crew can fail in it. -/
lemma upholding_reach : (reach T i).Obeys (upholding T P) w := by
  have h := reached T i w
  unfold Obeys
  cases hr : reach T i w
  rw [hr] at h
  cases h with
  | known => exact .refl w
  | created => exact upholds_of_quiet (samePlace_setView i _ w) rfl (by simp [Event.pass?])
  | refused _ hcreate =>
    exact ⟨upholds_of_quiet (.refl w) rfl (by simp [Event.pass?]),
      fun _ _ _ _ => ⟨_, hcreate⟩⟩
  | missing => exact ⟨.refl w, fun _ _ _ h => Failure.noConfusion h⟩

/-- What is known of a view that has been reached. -/
lemma upholds_of_reach {panel : Panel} {memory : σ} {v : Wizard σ}
    (h : reach T i w = ⟨.ok (panel, memory), v, js⟩) :
    Upholds P w js v ∧ panel ∈ w.panels := by
  have hupholds := upholding_reach (T := T) (P := P) (w := w) (i := i)
  have hreached := reached T i w
  rw [Obeys, h] at hupholds
  rw [h] at hreached
  have hpanel {view? : Option σ} (hslot : w.slots[i]? = some ⟨panel, view?⟩) : panel ∈ w.panels :=
    List.mem_map.mpr ⟨_, List.mem_of_getElem? hslot, rfl⟩
  cases hreached with
  | known hslot => exact ⟨hupholds, hpanel hslot⟩
  | created hslot => exact ⟨hupholds, hpanel hslot⟩

/-- Remarks stand for no refresh. -/
lemma passes_cons_remarked {event : Event} (h : ∀ env ∈ event.pass?, P env)
    (remarks : List Remark) :
    ∀ event' ∈ event :: remarks.map Event.remarked, ∀ env ∈ event'.pass?, P env := by
  intro event' hevent
  rcases List.mem_cons.mp hevent with rfl | hevent
  · exact h
  · obtain ⟨remark, -, rfl⟩ := List.mem_map.mp hevent
    intro env henv
    cases henv

lemma upholding_refresh (hrefresh : Environment.RefreshKeeps P) :
    refresh.Obeys (upholding T P) w := by
  have hpasses (hw : P w.env) : ∀ event ∈ Event.refreshed w.env ::
      w.env.evaluations.map (fun e => Event.remarked (.evaluated e)), ∀ env ∈ event.pass?,
        P env := by
    have hself : ∀ env ∈ (Event.refreshed w.env).pass?, P env :=
      fun env henv => Option.some.inj henv ▸ hw
    have h := passes_cons_remarked hself (w.env.evaluations.map Remark.evaluated)
    rwa [List.map_map] at h
  rw [Obeys, refresh_apply]
  cases h : w.env.refresh with
  | ok env => exact ⟨⟨rfl, rfl⟩, hrefresh _ _ h, hpasses⟩
  | error e => exact ⟨⟨.refl w, id, hpasses⟩, fun _ _ _ h => Failure.noConfusion h⟩

/-- A view that acts under the law for scenes acts under the law for wizards. -/
lemma upholding_turn {occasion : Occasion} {act : Stage → Attempt Remark (Scene σ) α}
    (hact : ∀ panel scene, (act ⟨panel, T.catalog⟩).Obeys
      (tame P (∀ id ∈ panel.validators, id ∈ T.catalog)) scene) :
    (turn T occasion i act).Obeys (upholding T P) w := by
  rcases hr : reach T i w with ⟨failure | ⟨panel, memory⟩, v, js⟩
  · have hreach := upholding_reach (T := T) (P := P) (w := w) (i := i)
    rw [Obeys, hr] at hreach
    rw [Obeys, turn_of_failed_reach hr]
    exact hreach
  · obtain ⟨hv, hpanel⟩ := upholds_of_reach (P := P) hr
    have hscene := hact panel ⟨memory, v.env, v.navigation⟩
    have hpasses (hw : P v.env) : ∀ env ∈ (Event.turned occasion i v.env).pass?, P env := by
      intro env henv
      cases occasion <;> cases henv <;> exact hw
    rw [Obeys, turn_of_reach hr]
    rw [Obeys] at hscene
    rcases hresult : act ⟨panel, T.catalog⟩ ⟨memory, v.env, v.navigation⟩ with
      ⟨failure | a, scene, remarks⟩
    · rw [hresult] at hscene
      refine ⟨hv.trans ⟨⟨panels_setView .., rfl⟩, hscene.1,
        fun hw => passes_cons_remarked (hpasses hw) remarks⟩, fun hsupplied => ?_⟩
      intro p validator hfailure
      exact absurd hfailure (hscene.2 (hsupplied panel hpanel) p validator)
    · rw [hresult] at hscene
      exact hv.trans ⟨⟨panels_setView .., rfl⟩, hscene,
        fun hw => passes_cons_remarked (hpasses hw) remarks⟩

lemma upholding_validateAt (hstandard : T.hooks.validation? = none)
    (hrefresh : Environment.RefreshKeeps P) (hkeep : T.Keep P) :
    (validateAt T i).Obeys (upholding T P) w := by
  refine upholding_turn fun panel scene => ?_
  rw [Hooks.validate, hstandard]
  exact Hooks.standardValidation_tame hrefresh hkeep.toKeep

lemma upholding_commitAt (hrefresh : Environment.RefreshKeeps P) (hkeep : T.Keep P) :
    (commitAt T i).Obeys (upholding T P) w :=
  upholding_turn fun _ _ => Hooks.commit_tame hrefresh hkeep.toKeep

lemma governs_upholding (hstandard : T.hooks.validation? = none)
    (hrefresh : Environment.RefreshKeeps P) (hkeep : T.Keep P) :
    Governs T (upholding T P) where
  samePlace h := h.samePlace
  samePlace_of_err h := h.1.samePlace
  reach _ := upholding_reach
  inquire visibleOnly panel memory := obeys_inquire visibleOnly panel memory _
    ⟨⟨rfl, rfl⟩, hkeep.asked memory panel _, fun _ _ hevent => absurd hevent List.not_mem_nil⟩
  refresh := upholding_refresh hrefresh
  validate _ := upholding_validateAt hstandard hrefresh hkeep
  commit _ := upholding_commitAt hrefresh hkeep
  save _ := upholding_turn fun panel scene => ofStep_tame (hkeep.save ⟨panel, T.catalog⟩ scene)
  leave _ := upholding_turn fun panel scene =>
    ofStep_tame (hkeep.deactivate ⟨panel, T.catalog⟩ scene)
  enter _ := upholding_turn fun panel scene => ofStep_tame (hkeep.activate ⟨panel, T.catalog⟩ scene)
  record _ := upholding_turn fun panel scene => hkeep.recorded ⟨panel, T.catalog⟩ scene

/-! ### Calls -/

/-- What comes of an attempt that upholds a property of the environment, also of one that moves the
wizard. -/
structure Upheld (T : Crew σ) (P : Environment → Prop) (w : Wizard σ)
    (report : Report Event (Wizard σ) (Except Failure α)) : Prop where
  env : P w.env → P report.state.env
  passes : P w.env → ∀ event ∈ report.journal, ∀ env ∈ event.pass?, P env
  excused : Supplied T w → ∀ failure, report.result = .error failure → Excused T failure

namespace Upheld

lemma of_ok (h : Upholds P w js w') (a : α) : Upheld T P w ⟨.ok a, w', js⟩ where
  env := h.env
  passes := h.passes
  excused _ _ hfail := by cases hfail

lemma of_error (h : (upholding T P).err failure w js w') :
    Upheld T P w (⟨.error failure, w', js⟩ : Report Event (Wizard σ) (Except Failure α)) where
  env := h.1.env
  passes := h.1.passes
  excused hw failure' hfail := by
    cases hfail
    exact h.2 hw

/-- What is set without a refresh passes none. -/
lemma of_silent (hplace : SamePlace w w') (henv : P w.env → P w'.env) (a : α) :
    Upheld T P w ⟨.ok a, w', []⟩ :=
  of_ok ⟨hplace, henv, fun _ _ h => absurd h List.not_mem_nil⟩ a

/-- What is made of the result does not matter. -/
lemma map {report : Report Event (Wizard σ) (Except Failure α)} (h : Upheld T P w report)
    (f : α → β) : Upheld T P w ⟨report.result.map f, report.state, report.journal⟩ where
  env := h.env
  passes := h.passes
  excused hw failure hfail := by
    refine h.excused hw failure ?_
    cases hresult : report.result with
    | error failure' =>
      rw [hresult] at hfail
      cases hfail
      rfl
    | ok a =>
      rw [hresult] at hfail
      cases hfail

end Upheld

lemma upheld_of_obeys {m : Attempt Event (Wizard σ) α} (hm : m.Obeys (upholding T P) w) :
    Upheld T P w (m w) := by
  rcases h : m w with ⟨failure | a, w', js⟩
  · rw [Obeys, h] at hm
    exact .of_error hm
  · rw [Obeys, h] at hm
    exact .of_ok hm a

lemma upheld_of_moved {Q : Nat → Prop} {report : Report Event (Wizard σ) (Except Failure Bool)}
    (h : Moved (upholding T P) w Q report) : Upheld T P w report := by
  cases h with
  | stayed hok => exact .of_ok hok false
  | failed herr => exact .of_error herr
  | arrived _ _ _ hok =>
    -- The wizard is elsewhere now, but in the same environment.
    refine ⟨fun hw => ?_, hok.passes, fun _ _ hfail => by cases hfail⟩
    rw [env_arrive]
    exact hok.env hw

lemma upheld_perform (hstandard : T.hooks.validation? = none)
    (hrefresh : Environment.RefreshKeeps P) (hkeep : T.Keep P) (hw : w.InBounds) {c : Call}
    (hc : c.Keeps P) : Upheld T P w (c.perform T w) := by
  have h := governs_upholding hstandard hrefresh hkeep
  cases c with
  | move m =>
    have hperform : (Call.move m).perform T w = _ := bind_pure_apply (m.perform T) Answer.flag w
    rw [hperform]
    exact (upheld_of_moved (h.perform hw m)).map Answer.flag
  | ask q => exact upheld_of_obeys (.map _ (h.ask hw q))
  | act i validate =>
    cases validate with
    | true => exact upheld_of_obeys (.map _ (upholding_validateAt hstandard hrefresh hkeep))
    | false => exact upheld_of_obeys (.map _ (upholding_commitAt hrefresh hkeep))
  | record => exact upheld_of_obeys (.map _ h.installationRecord)
  | setNext open' =>
    have hplace : SamePlace w (w.setNext open') := ⟨rfl, rfl⟩
    exact .of_silent hplace id Answer.done
  | setPrevious open' =>
    have hplace : SamePlace w (w.setPrevious open') := ⟨rfl, rfl⟩
    exact .of_silent hplace id Answer.done
  | adjust f =>
    have hplace : SamePlace w (w.mapEnv f) := ⟨rfl, rfl⟩
    exact .of_silent hplace (hc w.env) Answer.done

/-! ### Sessions -/

/-- The declared panels stay the same in a call; only their marks change. -/
lemma Placed.declared {target? : Option Nat} (h : Placed w w' target?) :
    w'.panels.map Panel.declared = w.panels.map Panel.declared := by
  cases h with
  | stayed hplace => rw [hplace.panels]
  | @arrived v new _ hplace harrive =>
    refine List.ext_getElem? fun i => ?_
    have harrived := panel?_arrive w.index? new i v
    rw [← harrive, hplace.panel?] at harrived
    rw [List.getElem?_map, List.getElem?_map]
    rw [Wizard.panel?, Wizard.panel?] at harrived
    rw [harrived, Option.map_map]
    rfl

lemma declared_session (T : Crew σ) (hw : w.InBounds) (calls : List Call) :
    (session T calls w).state.panels.map Panel.declared = w.panels.map Panel.declared := by
  have hstep (v : Wizard σ) (c : Call)
      (hv : v.InBounds ∧ v.panels.map Panel.declared = w.panels.map Panel.declared) :
      (c.perform T v).state.InBounds ∧
        (c.perform T v).state.panels.map Panel.declared = w.panels.map Panel.declared :=
    ⟨(placed T hv.1 c).inBounds hv.1, (placed T hv.1 c).declared.trans hv.2⟩
  exact (session_induction hstep calls ⟨hw, rfl⟩).2

lemma Supplied.of_declared (h : Supplied T w)
    (hpanels : w'.panels.map Panel.declared = w.panels.map Panel.declared) : Supplied T w' := by
  intro p hp
  have hmem : p.declared ∈ w.panels.map Panel.declared := hpanels ▸ List.mem_map_of_mem hp
  obtain ⟨q, hq, hdeclared⟩ := List.mem_map.mp hmem
  have hvalidators : q.validators = p.validators := (congrArg Panel.validators hdeclared :)
  exact hvalidators ▸ h q hq

/-- **A session upholds what views and callers keep**: the property holds of the environment at
every refresh, and with a full catalogue no call fails for want of a validator, except by what the
crew says when it cannot make a view. -/
theorem upheld_session (hstandard : T.hooks.validation? = none)
    (hrefresh : Environment.RefreshKeeps P) (hkeep : T.Keep P) {calls : List Call}
    (hcalls : ∀ c ∈ calls, c.Keeps P) (hw : w.InBounds) (hP : P w.env) (hsupplied : Supplied T w) :
    P (session T calls w).state.env ∧ ∀ e ∈ (session T calls w).journal,
      (∀ event ∈ e.journal, ∀ env ∈ event.pass?, P env) ∧
        ∀ failure, e.result = .error failure → Excused T failure := by
  induction calls generalizing w with
  | nil => exact ⟨hP, fun e he => absurd he List.not_mem_nil⟩
  | cons c cs ih =>
    rw [List.forall_mem_cons] at hcalls
    have hc := upheld_perform hstandard hrefresh hkeep hw hcalls.1
    have hplaced := placed T hw c
    obtain ⟨hend, hrest⟩ := ih hcalls.2 (hplaced.inBounds hw) (hc.env hP)
      (hsupplied.of_declared hplaced.declared)
    exact ⟨hend, List.forall_mem_cons.mpr ⟨⟨hc.passes hP, hc.excused hsupplied⟩, hrest⟩⟩

/-- Whatever views and callers do, with a full catalogue no call fails for want of a validator. -/
lemma excused_session (hstandard : T.hooks.validation? = none) (calls : List Call)
    (hw : w.InBounds) (hsupplied : Supplied T w) {e : Exchange}
    (he : e ∈ (session T calls w).journal) (hfail : e.result = .error failure) :
    Excused T failure := by
  have hkeep : T.Keep fun _ => True :=
    ⟨⟨fun _ _ h => h, fun _ _ h => h, fun _ _ h => h, fun _ _ h => h, fun _ _ h => h⟩,
      fun _ _ _ h => h, fun _ _ h => h⟩
  have hcalls (c : Call) (_ : c ∈ calls) : c.Keeps fun _ => True := by
    cases c with
    | adjust f => exact fun _ h => h
    | _ => exact trivial
  have hsession := upheld_session hstandard (fun _ _ _ h => h) hkeep hcalls hw trivial hsupplied
  exact (hsession.2 e he).2 failure hfail

end Wizard

end SetupWizard
