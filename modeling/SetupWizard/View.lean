/-
# Views

A view is the behaviour of a panel: what it does when the panel is validated, left, entered
and recorded.  Views have a memory of their own, of some type `σ`, and while one of its hooks
runs a view may change its memory, the environment and the switches for the ways forward and
back.  A view that is only asked something can change nothing of all that, except that it may add
derivations to the environment.  A crew makes the views of all panels and runs their hooks; a hook
that a crew does not define does what is usual.  A toolkit is a crew whose views add nothing when
they are asked whether they agree to being shown.
-/
import SetupWizard.Environment
import SetupWizard.Panel
import SetupWizard.Step

namespace SetupWizard

/-- What is put down in the journal while a hook runs. -/
inductive Remark where
  /-- The expression of a derivation was evaluated. -/
  | evaluated (expression : String)
  /-- A validator was asked about the variables. -/
  | checked (validator : String) (store : Store)
  /-- A hook has something to say. -/
  | said (text : String)

/-- What a hook may change. -/
structure Scene (σ : Type) where
  /-- The memory of the view. -/
  memory : σ
  /-- The environment of the wizard. -/
  env : Environment
  /-- The switches of the wizard. -/
  navigation : Navigation

/-- What a hook may consult. -/
structure Stage where
  /-- The panel of the view. -/
  panel : Panel
  /-- The validators of the wizard. -/
  catalog : Catalog

namespace Scene

variable {σ : Type}

/-- The scene with its store changed by a function. -/
def mapStore (f : Store → Store) (scene : Scene σ) : Scene σ :=
  { scene with env := scene.env.mapStore f }

/-- Brings the derived variables up to date. -/
def refresh : Attempt Remark (Scene σ) Unit := fun scene =>
  let journal := scene.env.evaluations.map Remark.evaluated
  match scene.env.update with
  | .ok () env => ⟨.ok (), { scene with env }, journal⟩
  | .error e env => ⟨.error (.refresh e), { scene with env }, journal⟩

theorem refresh_apply (scene : Scene σ) :
    refresh scene =
      match scene.env.refresh with
      | .ok env => ⟨.ok (), { scene with env }, scene.env.evaluations.map .evaluated⟩
      | .error e => ⟨.error (.refresh e), scene, scene.env.evaluations.map .evaluated⟩ := by
  rw [refresh, Environment.update_eq]
  cases scene.env.refresh <;> rfl

end Scene

namespace Stage

variable {σ : Type}

/-- Runs validators in order up to the first that rejects the data. -/
def runAll (stage : Stage) : List String → Attempt Remark (Scene σ) Bool
  | [] => pure true
  | id :: ids =>
    match stage.catalog[id]? with
    | none => Attempt.fail (.unknownValidator stage.panel.id id)
    | some validate => do
      let scene ← Attempt.get
      Attempt.write (.checked id scene.env.store)
      if (validate stage.panel scene.env.store).isGood then stage.runAll ids
      else return false

/-- Runs the validators of the panel. -/
def runValidators (stage : Stage) : Attempt Remark (Scene σ) Bool :=
  stage.runAll stage.panel.validators

end Stage

/-- What a view does on one occasion. -/
abbrev Hook (σ α : Type) := Stage → Step Remark (Scene σ) α

/-- What views do. -/
structure Hooks (σ : Type) where
  /-- Whether the view can be seen; views that cannot are passed over. -/
  isVisible : σ → Panel → Bool := fun _ panel => panel.visible
  /-- Whether the view agrees to being shown. -/
  canShow : σ → Panel → Environment → Bool := fun _ _ _ => true
  /-- How the view validates the data collected on its panel, if not in the standard way. -/
  validation? : Option (Stage → Attempt Remark (Scene σ) Bool) := none
  /-- What the view does before the validators are run. -/
  beforeValidation : Hook σ Unit := fun _ => pure ()
  /-- What the view does after the validators have passed. -/
  afterValidation : Hook σ Unit := fun _ => pure ()
  /-- How the view puts the data collected on its panel into the store. -/
  save : Hook σ Unit := fun _ => pure ()
  /-- What the view does when its panel is entered; `false` stops the wizard. -/
  activate : Hook σ Bool := fun _ => pure true
  /-- What the view does when its panel is left; `false` stops the wizard. -/
  deactivate : Hook σ Bool := fun _ => pure true
  /-- The data that the view puts into the record of the installation. -/
  recordData : Stage → Scene σ → Texts := fun _ _ => ∅

namespace Hooks

variable {σ : Type}

/-- Standard validation: a refresh, then the validators between the hooks around them. -/
def standardValidation (hooks : Hooks σ) (stage : Stage) : Attempt Remark (Scene σ) Bool := do
  Scene.refresh
  hooks.beforeValidation stage
  if ← stage.runValidators then
    hooks.afterValidation stage
    return true
  else return false

/-- Validates the data collected on a panel. -/
def validate (hooks : Hooks σ) (stage : Stage) : Attempt Remark (Scene σ) Bool :=
  match hooks.validation? with
  | none => hooks.standardValidation stage
  | some validation => validation stage

/-- Puts the data collected on a panel into the store without running validators. -/
def commit (hooks : Hooks σ) (stage : Stage) : Attempt Remark (Scene σ) Bool := do
  Scene.refresh
  hooks.beforeValidation stage
  hooks.afterValidation stage
  hooks.save stage
  return true

/-- Whether a panel is considered, so that its view is asked whether it agrees to being shown.  With
`visibleOnly` the panel must count as a visible step; in any case its view must be visible and its
condition must hold. -/
def considers (hooks : Hooks σ) (memory : σ) (panel : Panel) (env : Environment)
    (visibleOnly : Bool) : Bool :=
  (!visibleOnly || panel.visible) && hooks.isVisible memory panel && panel.condition?.all env.isTrue

/-- Whether a panel is shown: it must be considered and its view must agree. -/
def shows (hooks : Hooks σ) (memory : σ) (panel : Panel) (env : Environment)
    (visibleOnly : Bool) : Bool :=
  hooks.considers memory panel env visibleOnly && hooks.canShow memory panel env

end Hooks

/-- Makes views and knows what they do. -/
structure Crew (σ : Type) where
  /-- The memory with which the view of a panel begins, if the view can be made. -/
  create : Panel → Except Failure σ
  /-- What the views do. -/
  hooks : Hooks σ := {}
  /-- The validators that panels refer to. -/
  catalog : Catalog := ∅
  /-- The derivations that a view adds when it is asked whether it agrees to being shown. -/
  asked : σ → Panel → Environment → List Derivation := fun _ _ _ => []
  /-- The derivations that a view adds when it is asked for the data to be recorded. -/
  recorded : Stage → Scene σ → List Derivation := fun _ _ => []

/-- A crew whose views add no derivations when they are asked whether they agree to being shown. -/
structure Toolkit (σ : Type) extends Crew σ where
  asked_eq_nil : ∀ memory panel env, asked memory panel env = [] := by intros; rfl

instance {σ : Type} : CoeOut (Toolkit σ) (Crew σ) := ⟨Toolkit.toCrew⟩

/-- The toolkit whose views do nothing of their own. -/
def Toolkit.plain (catalog : Catalog) : Toolkit Unit where
  create _ := .ok ()
  catalog := catalog

end SetupWizard
