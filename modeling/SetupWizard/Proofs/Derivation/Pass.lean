/-
# Which derivations a pass reaches

A pass judges its derivations in their order and stops at the first that fails.  If none does, each
of them has its verdict, and the environment after the pass is known in full: this file gives the
successful passes as an equivalence.  It also says which expressions a pass evaluates, by the
positions of the derivations, because two derivations may well be equal.
-/
import Mathlib.Tactic.Lemma
import SetupWizard.Environment

namespace SetupWizard

namespace Derivation

variable {conditions : Authority} {evaluate : Evaluator} {store : Store}

/-- Whether a verdict stops the pass. -/
def Verdict.isFailed : Verdict → Bool
  | .failed _ => true
  | _ => false

/-! ### One verdict -/

/-- **The three ways to judge a derivation.**  It is not in force, or it is in force and keeps what
it computed before, or it is active. -/
lemma judge_cases (conditions : Authority) (evaluate : Evaluator) (store : Store)
    (d : Derivation) :
    (d.inForce conditions store = false ∧ d.isActive conditions store = false ∧
      d.judge conditions evaluate store = if d.autoUnset then .withdrawn else .dormant) ∨
    (d.inForce conditions store = true ∧ d.isActive conditions store = false ∧
      (d.oneShot = true ∧ d.evaluated = true) ∧
      d.judge conditions evaluate store = .carried (store.get? d.name)) ∨
    (d.inForce conditions store = true ∧ d.isActive conditions store = true ∧
      d.judge conditions evaluate store = d.ofOutcome (evaluate d.expression store)) := by
  cases hforce : d.inForce conditions store with
  | false => exact .inl (by simp [isActive, judge, hforce])
  | true =>
    cases hspent : d.oneShot && d.evaluated with
    | true =>
      refine .inr (.inl ⟨rfl, ?_, Bool.and_eq_true_iff.mp hspent, ?_⟩)
      · simp [isActive, hspent]
      · simp [judge, hforce, hspent]
    | false => exact .inr (.inr (by simp [isActive, judge, hforce, hspent]))

lemma inForce_of_isActive {d : Derivation} (h : d.isActive conditions store = true) :
    d.inForce conditions store = true :=
  (Bool.and_eq_true_iff.mp h).1

/-- A verdict has a computed value exactly if the expression is evaluated to it. -/
lemma judge_eq_computed_iff {d : Derivation} {value : Option String} :
    d.judge conditions evaluate store = .computed value ↔
      d.isActive conditions store = true ∧ evaluate d.expression store = .ok value := by
  obtain ⟨-, hidle, h⟩ | ⟨-, hidle, -, h⟩ | ⟨-, hactive, h⟩ :=
    judge_cases conditions evaluate store d
  · rw [h, hidle]
    split <;> simp
  · simp [h, hidle]
  · rw [h, hactive]
    rcases evaluate d.expression store with (message | ⟨text, causes⟩) | value'
    · simp [ofOutcome]
    · simp only [ofOutcome]
      split <;> simp
    · simp [ofOutcome]

/-- Only an evaluation can fail. -/
lemma isActive_of_isFailed {d : Derivation}
    (h : (d.judge conditions evaluate store).isFailed = true) :
    d.isActive conditions store = true := by
  obtain ⟨-, -, hv⟩ | ⟨-, -, -, hv⟩ | ⟨-, hactive, -⟩ := judge_cases conditions evaluate store d
  · rw [hv] at h
    split at h <;> cases h
  · rw [hv] at h
    cases h
  · exact hactive

/-! ### All verdicts -/

lemma verdicts_cons_of_isFailed {d : Derivation}
    (h : (d.judge conditions evaluate store).isFailed = true) (ds : List Derivation) :
    ∃ e, verdicts conditions evaluate store (d :: ds) = .error e := by
  rw [verdicts]
  cases hv : d.judge conditions evaluate store with
  | failed e => exact ⟨e, rfl⟩
  | _ => simp [hv, Verdict.isFailed] at h

lemma verdicts_cons {d : Derivation}
    (h : (d.judge conditions evaluate store).isFailed = false) (ds : List Derivation) :
    verdicts conditions evaluate store (d :: ds) =
      match verdicts conditions evaluate store ds with
      | .ok vs => .ok (d.judge conditions evaluate store :: vs)
      | .error e => .error e := by
  rw [verdicts]
  cases hv : d.judge conditions evaluate store with
  | failed e => simp [hv, Verdict.isFailed] at h
  | _ => rfl

/-- The verdicts are known unless one of them stops the pass. -/
lemma verdicts_eq_ok_iff {ds : List Derivation} {vs : List Verdict} :
    verdicts conditions evaluate store ds = .ok vs ↔
      (∀ d ∈ ds, (d.judge conditions evaluate store).isFailed = false) ∧
        ds.map (judge conditions evaluate store) = vs := by
  induction ds generalizing vs with
  | nil => simp
  | cons d ds ih =>
    rw [List.forall_mem_cons, List.map_cons]
    cases hd : (d.judge conditions evaluate store).isFailed with
    | true =>
      obtain ⟨e, he⟩ := verdicts_cons_of_isFailed hd ds
      simp [he]
    | false =>
      rw [verdicts_cons hd]
      cases hds : verdicts conditions evaluate store ds with
      | ok ws =>
        obtain ⟨hgoes, rfl⟩ := ih.mp hds
        exact ⟨fun h => ⟨⟨rfl, hgoes⟩, Except.ok.inj h⟩, fun h => congrArg Except.ok h.2⟩
      | error e =>
        simp only [reduceCtorEq, true_and, false_iff]
        rintro ⟨hgoes, -⟩
        rw [ih.mpr ⟨hgoes, rfl⟩] at hds
        cases hds

/-- The successful passes over a list of derivations. -/
lemma refresh_eq_ok_iff {ds : List Derivation} {outcome : List Derivation × Store} :
    refresh conditions evaluate ds store = .ok outcome ↔
      (∀ d ∈ ds, (d.judge conditions evaluate store).isFailed = false) ∧
        (ds.map fun d => d.after (d.judge conditions evaluate store),
          (requests ds (ds.map (judge conditions evaluate store))).apply store) = outcome := by
  rw [refresh_eq]
  cases hvs : verdicts conditions evaluate store ds with
  | ok vs =>
    obtain ⟨hgoes, rfl⟩ := verdicts_eq_ok_iff.mp hvs
    rw [Except.ok.injEq, List.zipWith_map_right, List.zipWith_self]
    exact (and_iff_right hgoes).symm
  | error e =>
    simp only [reduceCtorEq, false_iff, not_and]
    intro hgoes
    rw [verdicts_eq_ok_iff.mpr ⟨hgoes, rfl⟩] at hvs
    cases hvs

/-! ### Positions -/

/-- The derivations that a pass judges: all up to the first that fails. -/
def judged (conditions : Authority) (evaluate : Evaluator) (store : Store) :
    List Derivation → List Derivation
  | [] => []
  | d :: ds =>
    if (d.judge conditions evaluate store).isFailed then [d]
    else d :: judged conditions evaluate store ds

lemma judged_prefix (ds : List Derivation) : judged conditions evaluate store ds <+: ds := by
  induction ds with
  | nil => exact List.prefix_refl []
  | cons d ds ih =>
    rw [judged]
    split
    · exact List.prefix_append [d] ds
    · exact (List.prefix_cons_inj d).mpr ih

/-- A pass evaluates the active ones among those that it judges. -/
lemma evaluations_eq_filter (ds : List Derivation) :
    evaluations conditions evaluate store ds =
      (judged conditions evaluate store ds).filter (isActive conditions store) := by
  induction ds with
  | nil => rfl
  | cons d ds ih =>
    rw [evaluations, judged]
    cases hv : d.judge conditions evaluate store with
    | failed e =>
      have hfailed : (d.judge conditions evaluate store).isFailed = true := by rw [hv]; rfl
      simp [Verdict.isFailed, isActive_of_isFailed hfailed]
    | _ => simp [Verdict.isFailed, List.filter_cons, ih]

end Derivation

namespace Environment

variable {env env' : Environment}

/-- What a derivation asks for in an environment. -/
def verdict (env : Environment) (d : Derivation) : Derivation.Verdict :=
  d.judge env.conditions env.evaluate env.store

/-- The positions of the derivations whose expressions a pass evaluates. -/
def evaluatedAt (env : Environment) : List Nat :=
  ((Derivation.judged env.conditions env.evaluate env.store env.derivations).zipIdx.filter
    fun d => d.1.isActive env.conditions env.store).map Prod.snd

/-- What a pass judges stands at the same place in the whole list. -/
lemma getElem?_of_judged {i : Nat} {d : Derivation}
    (h : (Derivation.judged env.conditions env.evaluate env.store env.derivations)[i]? = some d) :
    env.derivations[i]? = some d := by
  obtain ⟨hi, rfl⟩ := List.getElem?_eq_some_iff.mp h
  exact List.prefix_iff_getElem?.mp (Derivation.judged_prefix env.derivations) i hi

lemma mem_evaluatedAt_iff {i : Nat} :
    i ∈ env.evaluatedAt ↔ ∃ d, (Derivation.judged env.conditions env.evaluate env.store
      env.derivations)[i]? = some d ∧ d.isActive env.conditions env.store = true := by
  simp [evaluatedAt, List.mk_mem_zipIdx_iff_getElem?]

/-- A derivation that is evaluated is active. -/
lemma isActive_of_mem_evaluatedAt {i : Nat} (h : i ∈ env.evaluatedAt) :
    ∃ d, env.derivations[i]? = some d ∧ d.isActive env.conditions env.store = true := by
  obtain ⟨d, hd, hactive⟩ := mem_evaluatedAt_iff.mp h
  exact ⟨d, getElem?_of_judged hd, hactive⟩

/-- A pass evaluates the expressions at these positions, in this order, and no others. -/
theorem map_some_evaluations (env : Environment) :
    env.evaluations.map some =
      env.evaluatedAt.map fun i => env.derivations[i]?.map Derivation.expression := by
  let active := Derivation.isActive env.conditions env.store
  have hfst : env.evaluations = (((Derivation.judged env.conditions env.evaluate env.store
      env.derivations).zipIdx.filter (active ∘ Prod.fst)).map Prod.fst).map
        Derivation.expression := by
    rw [← List.filter_map, List.zipIdx_map_fst, evaluations, Derivation.evaluations_eq_filter]
  rw [hfst, evaluatedAt, List.map_map, List.map_map, List.map_map]
  refine List.map_congr_left fun d hd => ?_
  have hget := List.mem_zipIdx_iff_getElem?.mp (List.mem_filter.mp hd).1
  simp [getElem?_of_judged hget]

/-- **The successful passes.**  A pass succeeds unless a derivation fails, and then it marks the
derivations and carries out what they ask for. -/
lemma refresh_eq_ok_iff :
    env.refresh = .ok env' ↔
      (∀ d ∈ env.derivations, (env.verdict d).isFailed = false) ∧
        env' = { env with
          derivations := env.derivations.map fun d => d.after (env.verdict d)
          store := (Derivation.requests env.derivations
            (env.derivations.map env.verdict)).apply env.store } := by
  rw [refresh_eq]
  cases hpass : Derivation.refresh env.conditions env.evaluate env.derivations env.store with
  | ok outcome =>
    obtain ⟨hgoes, rfl⟩ := Derivation.refresh_eq_ok_iff.mp hpass
    rw [Except.ok.injEq, eq_comm]
    exact (and_iff_right hgoes).symm
  | error e =>
    simp only [reduceCtorEq, false_iff, not_and]
    intro hgoes
    rw [Derivation.refresh_eq_ok_iff.mpr ⟨hgoes, rfl⟩] at hpass
    cases hpass

end Environment

end SetupWizard
