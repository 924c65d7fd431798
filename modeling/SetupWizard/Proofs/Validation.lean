/-
# Validators

Running validators changes nothing, and what comes of it depends on the store only: declared
validators do not look at the panel whose data they judge.  Data passes exactly if the
requirements that the panel refers to are met (`Definition.result_runValidators_eq_true`).
-/
import Mathlib.Data.List.Induction
import Mathlib.Tactic.Lemma
import SetupWizard.Definition.Build
import SetupWizard.View

namespace SetupWizard

/-- The validator that a requirement declares; it judges the data of all panels alike. -/
def Requirement.validator (r : Requirement) : Validator := fun _ store => r.judge store

/-- Under an id there is the requirement that was declared last. -/
lemma Requirement.getElem?_catalog (rs : List Requirement) (id : String) :
    (catalog rs)[id]? = (rs.reverse.find? fun r => r.id == id).map Requirement.validator := by
  induction rs using List.reverseRecOn with
  | nil => exact Std.ExtTreeMap.getElem?_empty
  | append_singleton rs r ih =>
    have hcatalog : catalog (rs ++ [r]) = (catalog rs).insert r.id r.validator := by
      rw [catalog, List.foldl_append]
      rfl
    rw [hcatalog, Std.ExtTreeMap.getElem?_insert, ih, List.reverse_append]
    by_cases h : r.id = id
    · subst h
      simp
    · simp [h]

namespace Stage

variable {σ τ : Type}

lemma runAll_cons_of_unknown {stage : Stage} {id : String} (h : stage.catalog[id]? = none)
    (ids : List String) (scene : Scene σ) :
    stage.runAll (id :: ids) scene =
      ⟨.error (.unknownValidator stage.panel.id id), scene, []⟩ := by
  rw [runAll, h]
  rfl

lemma runAll_cons_of_known {stage : Stage} {id : String} {validate : Validator}
    (h : stage.catalog[id]? = some validate) (ids : List String) (scene : Scene σ) :
    stage.runAll (id :: ids) scene =
      let rest : Report Remark (Scene σ) (Except Failure Bool) :=
        if (validate stage.panel scene.env.store).isGood then stage.runAll ids scene
        else ⟨.ok false, scene, []⟩
      ⟨rest.result, rest.state, .checked id scene.env.store :: rest.journal⟩ := by
  have hcheck : (Attempt.write (.checked id scene.env.store) : Attempt Remark (Scene σ) Unit)
      scene = ⟨.ok (), scene, [.checked id scene.env.store]⟩ := rfl
  rw [runAll, h]
  show ((Attempt.write (.checked id scene.env.store) : Attempt Remark (Scene σ) Unit) >>=
    fun _ => if (validate stage.panel scene.env.store).isGood then stage.runAll ids
      else pure false) scene = _
  rw [Attempt.bind_of_ok hcheck]
  cases (validate stage.panel scene.env.store).isGood with
  | true => rfl
  | false => rfl

/-- Running validators changes nothing. -/
lemma state_runAll (stage : Stage) (ids : List String) (scene : Scene σ) :
    (stage.runAll ids scene).state = scene := by
  induction ids with
  | nil => rfl
  | cons id ids ih =>
    cases h : stage.catalog[id]? with
    | none => rw [runAll_cons_of_unknown h]
    | some validate =>
      rw [runAll_cons_of_known h]
      dsimp only
      split
      · exact ih
      · rfl

/-- Data passes exactly if all validators are known and find it good. -/
lemma result_runAll_eq_true {stage : Stage} {ids : List String} {scene : Scene σ} :
    (stage.runAll ids scene).result = .ok true ↔ ∀ id ∈ ids, ∃ validate,
      stage.catalog[id]? = some validate ∧
        (validate stage.panel scene.env.store).isGood = true := by
  induction ids with
  | nil =>
    constructor
    · intro _ id hid
      cases hid
    · intro _
      rfl
  | cons id ids ih =>
    rw [List.forall_mem_cons, ← ih]
    cases h : stage.catalog[id]? with
    | none => simp [runAll_cons_of_unknown h]
    | some validate =>
      rw [runAll_cons_of_known h]
      cases hgood : (validate stage.panel scene.env.store).isGood <;> simp [hgood]

/-- Validators that do not look at the panel say the same of panels with the same id. -/
lemma result_runAll_congr {stage stage' : Stage} (hid : stage'.panel.id = stage.panel.id)
    (hcatalog : stage'.catalog = stage.catalog)
    (hblind : ∀ (id : String) (validate : Validator), stage.catalog[id]? = some validate →
      ∀ store, validate stage'.panel store = validate stage.panel store)
    {scene : Scene σ} {scene' : Scene τ} (hstore : scene'.env.store = scene.env.store)
    (ids : List String) :
    (stage'.runAll ids scene').result = (stage.runAll ids scene).result := by
  induction ids with
  | nil => rfl
  | cons id ids ih =>
    cases h : stage.catalog[id]? with
    | none => rw [runAll_cons_of_unknown h, runAll_cons_of_unknown (hcatalog ▸ h), hid]
    | some validate =>
      -- Both sides ask the same validator, and it cannot tell the panels apart.
      rw [runAll_cons_of_known h, runAll_cons_of_known (hcatalog ▸ h), hstore, hblind id validate h]
      dsimp only
      split
      · exact ih
      · rfl

end Stage

namespace Requirement

/-- Declared validators say the same of panels with the same id. -/
lemma result_runAll_catalog {σ τ : Type} (rs : List Requirement) {p q : Panel} (hid : q.id = p.id)
    (scene : Scene σ) (scene' : Scene τ) (hstore : scene'.env.store = scene.env.store)
    (ids : List String) :
    ((Stage.mk q (catalog rs)).runAll ids scene').result =
      ((Stage.mk p (catalog rs)).runAll ids scene).result := by
  have hblind (id : String) (validate : Validator) (h : (catalog rs)[id]? = some validate)
      (store : Store) : validate q store = validate p store := by
    rw [getElem?_catalog, Option.map_eq_some_iff] at h
    obtain ⟨r, -, rfl⟩ := h
    rfl
  have hid' : (Stage.mk q (catalog rs)).panel.id = (Stage.mk p (catalog rs)).panel.id := hid
  exact Stage.result_runAll_congr hid' rfl hblind hstore ids

/-- What a requirement asks for is met by a store: unless it is only there to warn, all required
variables have values that are not blank. -/
def Met (r : Requirement) (store : Store) : Prop :=
  r.warnOnly = true ∨ ∀ name ∈ r.required, ∃ value,
    store.get? name = some value ∧ Text.isBlankText value = false

lemma missing_eq_nil {r : Requirement} {store : Store} :
    r.missing store = [] ↔ ∀ name ∈ r.required, ∃ value,
      store.get? name = some value ∧ Text.isBlankText value = false := by
  rw [missing, List.filter_eq_nil_iff]
  refine forall₂_congr fun name _ => ?_
  cases store.get? name <;> simp

/-- A declared validator finds exactly those stores good that meet its requirement. -/
lemma isGood_judge {r : Requirement} {store : Store} :
    (r.judge store).isGood = true ↔ r.Met store := by
  rw [Met, ← missing_eq_nil, judge]
  cases r.missing store with
  | nil => exact ⟨fun _ => .inr rfl, fun _ => rfl⟩
  | cons name names => cases r.warnOnly <;> simp [Finding.isGood]

end Requirement

/-- The requirement that is declared last under an id. -/
def Definition.requirement? (d : Definition) (id : String) : Option Requirement :=
  d.requirements.reverse.find? fun r => r.id == id

/-- The declared validators let data pass exactly if the requirements under their ids are met. -/
lemma Definition.result_runValidators_eq_true {σ : Type} {d : Definition} {p : Panel}
    {scene : Scene σ} :
    ((Stage.mk p d.catalog).runValidators scene).result = .ok true ↔
      ∀ id ∈ p.validators, ∃ r, d.requirement? id = some r ∧ r.Met scene.env.store := by
  rw [Stage.runValidators, Stage.result_runAll_eq_true]
  refine forall₂_congr fun id _ => ?_
  rw [catalog, Requirement.getElem?_catalog, ← requirement?]
  constructor
  · rintro ⟨validate, hvalidate, hgood⟩
    obtain ⟨r, hr, rfl⟩ := Option.map_eq_some_iff.mp hvalidate
    exact ⟨r, hr, Requirement.isGood_judge.mp hgood⟩
  · rintro ⟨r, hr, hmet⟩
    exact ⟨r.validator, by rw [hr]; rfl, Requirement.isGood_judge.mpr hmet⟩

end SetupWizard
