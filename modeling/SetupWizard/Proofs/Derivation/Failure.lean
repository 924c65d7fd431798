/-
# How a pass fails

A pass fails because of one derivation: the first whose expression is evaluated and fails in a way
that is not to be ignored.  A broken expression is never ignored, any other failure is where the
derivation says so.  Whatever the derivations in front of the culprit have asked for by then is
dropped: neither the variables nor the holds on them nor the marks of the derivations have changed
(`failure_of_refresh`).  This is so because nothing is written before all derivations have been
judged (`Environment.update_eq`).
-/
import SetupWizard.Proofs.Derivation.Pass
import SetupWizard.Wizard

namespace SetupWizard

namespace Derivation

variable {conditions : Authority} {evaluate : Evaluator} {store : Store} {d : Derivation}
  {ds : List Derivation} {e e' : RefreshError}

/-! ### The failure of one derivation -/

/-- The rule is active on a store, and its expression fails so that a pass has to stop. -/
inductive Fails (conditions : Authority) (evaluate : Evaluator) (store : Store) (d : Derivation) :
    RefreshError → Prop
  /-- The expression is broken. -/
  | broken {message : String} : d.isActive conditions store = true →
      evaluate d.expression store = .error (.fatal message) →
      Fails conditions evaluate store d (.fatal d.name message)
  /-- The expression has no value for other reasons, and that is not to be ignored. -/
  | unfounded {text : String} {causes : List String} : d.isActive conditions store = true →
      d.ignoreFailure = false → evaluate d.expression store = .error (.other text causes) →
      Fails conditions evaluate store d (.wrapped d.name text causes)

lemma judge_of_isActive (h : d.isActive conditions store = true) :
    d.judge conditions evaluate store = d.ofOutcome (evaluate d.expression store) := by
  rw [isActive, Bool.and_eq_true, Bool.not_eq_true'] at h
  rw [judge, h.1, h.2, if_pos rfl, if_neg Bool.false_ne_true]

/-- A rule fails exactly if the verdict on it says so. -/
lemma judge_eq_failed_iff :
    d.judge conditions evaluate store = .failed e ↔ d.Fails conditions evaluate store e := by
  constructor
  · intro h
    have hactive : d.isActive conditions store = true := isActive_of_isFailed (by rw [h]; rfl)
    rw [judge_of_isActive hactive] at h
    rcases hvalue : evaluate d.expression store with (message | ⟨text, causes⟩) | value
    · rw [hvalue] at h
      cases h
      exact .broken hactive hvalue
    · cases hignore : d.ignoreFailure with
      | true => simp [hvalue, ofOutcome, hignore] at h
      | false =>
        obtain rfl : .wrapped d.name text causes = e := by
          simpa [hvalue, ofOutcome, hignore] using h
        exact .unfounded hactive hignore hvalue
    · rw [hvalue] at h
      cases h
  · rintro (⟨hactive, hvalue⟩ | ⟨hactive, hignore, hvalue⟩)
    · rw [judge_of_isActive hactive, hvalue, ofOutcome]
    · rw [judge_of_isActive hactive, hvalue, ofOutcome, hignore, if_neg Bool.false_ne_true]

lemma isFailed_judge_iff : (d.judge conditions evaluate store).isFailed = true ↔
    ∃ e, d.Fails conditions evaluate store e := by
  simp only [← judge_eq_failed_iff]
  cases d.judge conditions evaluate store <;> simp [Verdict.isFailed]

/-- A rule fails in one way only. -/
lemma Fails.unique (h : d.Fails conditions evaluate store e)
    (h' : d.Fails conditions evaluate store e') : e' = e := by
  rw [← judge_eq_failed_iff] at h h'
  exact Verdict.failed.inj (h'.symm.trans h)

/-! ### The failure of a pass -/

/-- The first rule that fails, with its failure. -/
def FirstFailure (conditions : Authority) (evaluate : Evaluator) (store : Store)
    (ds : List Derivation) (e : RefreshError) : Prop :=
  ∃ before d after, ds = before ++ d :: after ∧ d.Fails conditions evaluate store e ∧
    ∀ d' ∈ before, ∀ e', ¬d'.Fails conditions evaluate store e'

lemma firstFailure_cons_iff : FirstFailure conditions evaluate store (d :: ds) e ↔
    d.Fails conditions evaluate store e ∨
      ((∀ e', ¬d.Fails conditions evaluate store e') ∧
        FirstFailure conditions evaluate store ds e) := by
  constructor
  · rintro ⟨before, d', after, hsplit, hfails, hbefore⟩
    cases before with
    | nil =>
      obtain ⟨rfl, -⟩ := List.cons.inj hsplit
      exact .inl hfails
    | cons first before =>
      obtain ⟨rfl, rfl⟩ := List.cons.inj hsplit
      rw [List.forall_mem_cons] at hbefore
      exact .inr ⟨hbefore.1, before, d', after, rfl, hfails, hbefore.2⟩
  · rintro (hfails | ⟨hgoes, before, d', after, rfl, hfails, hbefore⟩)
    · exact ⟨[], d, ds, rfl, hfails, fun _ h => absurd h List.not_mem_nil⟩
    · exact ⟨d :: before, d', after, rfl, hfails, List.forall_mem_cons.mpr ⟨hgoes, hbefore⟩⟩

/-- **The verdicts are missing exactly if some rule fails**, and the first failure counts. -/
lemma verdicts_eq_error_iff : verdicts conditions evaluate store ds = .error e ↔
    FirstFailure conditions evaluate store ds e := by
  induction ds with
  | nil => simp [FirstFailure]
  | cons d ds ih =>
    rw [firstFailure_cons_iff, ← ih]
    by_cases hd : ∃ e', d.Fails conditions evaluate store e'
    · obtain ⟨e', hfails⟩ := hd
      rw [verdicts, judge_eq_failed_iff.mpr hfails]
      constructor
      · intro h
        cases h
        exact .inl hfails
      · rintro (h | ⟨hgoes, -⟩)
        · rw [h.unique hfails]
        · exact absurd hfails (hgoes e')
    · have hgoes : (d.judge conditions evaluate store).isFailed = false :=
        Bool.eq_false_iff.mpr fun h => hd (isFailed_judge_iff.mp h)
      rw [verdicts_cons hgoes]
      simp only [not_exists] at hd
      cases hds : verdicts conditions evaluate store ds with
      | ok vs => simp [hd]
      | error e' => simp [hd]

/-- Where a rule fails, one of them is the first to fail. -/
lemma exists_firstFailure_iff : (∃ e, FirstFailure conditions evaluate store ds e) ↔
    ∃ d ∈ ds, ∃ e, d.Fails conditions evaluate store e := by
  constructor
  · rintro ⟨e, before, d, after, rfl, hfails, -⟩
    exact ⟨d, List.mem_append_right before List.mem_cons_self, e, hfails⟩
  · rintro ⟨d, hd, hfails⟩
    cases hvs : verdicts conditions evaluate store ds with
    | ok vs =>
      have hgoes := (verdicts_eq_ok_iff.mp hvs).1 d hd
      exact absurd (isFailed_judge_iff.mpr hfails) (Bool.eq_false_iff.mp hgoes)
    | error e => exact ⟨e, verdicts_eq_error_iff.mp hvs⟩

end Derivation

namespace Environment

variable {env : Environment} {e : RefreshError}

lemma refresh_eq_error_iff : env.refresh = .error e ↔
    Derivation.FirstFailure env.conditions env.evaluate env.store env.derivations e := by
  rw [← Derivation.verdicts_eq_error_iff, refresh_eq, Derivation.refresh_eq]
  cases Derivation.verdicts env.conditions env.evaluate env.store env.derivations with
  | ok vs => simp
  | error e' => simp

/-- **How a pass fails.**  A pass fails if and only if some active derivation fails, that is, if its
expression is broken, or has no value for other reasons and this is not to be ignored.  The error is
that of the first of these derivations, whatever those in front of it ask for; and whoever has asked
for the pass, a view while one of its hooks runs or the wizard itself, is left with everything as it
was before. -/
theorem failure_of_refresh (env : Environment) :
    ((∃ e, env.refresh = .error e) ↔
      ∃ d ∈ env.derivations, ∃ e, d.Fails env.conditions env.evaluate env.store e) ∧
    (∀ e, env.refresh = .error e ↔ ∃ before d after,
      env.derivations = before ++ d :: after ∧ d.Fails env.conditions env.evaluate env.store e ∧
        ∀ d' ∈ before, ∀ e', ¬d'.Fails env.conditions env.evaluate env.store e') ∧
    ∀ e, env.refresh = .error e → ∀ σ : Type,
      (∀ scene : Scene σ, scene.env = env →
        (Scene.refresh scene).result = .error (.refresh e) ∧
          (Scene.refresh scene).state = scene) ∧
      ∀ w : Wizard σ, w.env = env →
        (Wizard.refresh w).result = .error (.refresh e) ∧ (Wizard.refresh w).state = w := by
  refine ⟨?_, fun e => refresh_eq_error_iff, fun e he σ => ⟨?_, ?_⟩⟩
  · simp only [refresh_eq_error_iff]
    exact Derivation.exists_firstFailure_iff
  · rintro scene rfl
    rw [Scene.refresh_apply, he]
    exact ⟨rfl, rfl⟩
  · rintro w rfl
    rw [Wizard.refresh_apply, he]
    exact ⟨rfl, rfl⟩

/-- Of six derivations the fifth stops the pass, although it ignores failures: its expression is
broken.  Two in front of it have been judged, one more failure has been ignored, and two broken
expressions have not been evaluated. -/
theorem failure_of_brokenExpression :
    let ds : List Derivation :=
      [{ name := "A", expression := "1" },
        { name := "B", expression := "none", ignoreFailure := true },
        { name := "C", expression := "broken", condition? := some "never" },
        { name := "D", expression := "broken", oneShot := true, evaluated := true },
        { name := "E", expression := "broken", ignoreFailure := true },
        { name := "F", expression := "none" }]
    let evaluate : Evaluator := fun expression _ =>
      if expression = "broken" then .error (.fatal "no such function")
      else if expression = "none" then .error (.other "no value" [])
      else .ok (some expression)
    let w : Wizard Unit := .ofPanels []
      { store := .ofList [("D", "0")], derivations := ds
        conditions := fun id _ => id != "never", evaluate }
    w.env.refresh = .error (.fatal "E" "no such function") ∧ (Wizard.refresh w).state = w := by
  intro ds evaluate w
  obtain ⟨-, hfirst, hkept⟩ := failure_of_refresh w.env
  have hfails : w.env.refresh = .error (.fatal "E" "no such function") := by
    refine (hfirst _).mpr ⟨ds.take 4,
      { name := "E", expression := "broken", ignoreFailure := true }, ds.drop 5, rfl,
      .broken rfl rfl, ?_⟩
    have hgoes : ∀ d ∈ ds.take 4, (w.env.verdict d).isFailed = false := by decide +kernel
    intro d hd e he
    have hstops := Derivation.isFailed_judge_iff.mpr ⟨e, he⟩
    exact absurd hstops (Bool.eq_false_iff.mp (hgoes d hd))
  exact ⟨hfails, ((hkept _ hfails Unit).2 w rfl).2⟩

end Environment

end SetupWizard
