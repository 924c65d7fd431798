/-
# Derivations that are evaluated once

A one-shot derivation is evaluated until an evaluation succeeds in a pass that succeeds as a whole.
Such a pass marks it, the mark is never taken away, and a marked one-shot derivation is not
evaluated any more: from then on it only keeps what its variable has.  If it is the only derivation
of its variable, later passes therefore neither bring a value nor change or take one away, except
that the variable is unset while the derivation is not in force.
-/
import SetupWizard.Proofs.Environment.History

namespace SetupWizard.Environment

variable {env env' passed : Environment} {i : Nat} {d : Derivation}

/-- All derivations of a variable stand at one position. -/
def Sole (env : Environment) (i : Nat) (n : String) : Prop :=
  ∀ (j : Nat) (d : Derivation), env.derivations[j]? = some d → d.name = n → j = i

lemma Sole.filter_eq (h : env.Sole i d.name) (hd : env.derivations[i]? = some d) :
    (env.derivations.filter fun d' => d'.name == d.name) = [d] := by
  obtain ⟨hi, hd⟩ := List.getElem?_eq_some_iff.mp hd
  have hother {j : Nat} (hj : j < env.derivations.length) (hne : j ≠ i) :
      ¬(env.derivations[j].name == d.name) = true := fun hname =>
    hne (h j _ (List.getElem?_eq_getElem hj) (beq_iff_eq.mp hname))
  -- The list is split at the position, and the filter keeps nothing of either side.
  refine List.filter_eq_cons_iff.mpr ⟨env.derivations.take i, env.derivations.drop (i + 1),
    ?_, fun d' hd' => ?_, beq_self_eq_true _, List.filter_eq_nil_iff.mpr fun d' hd' => ?_⟩
  · rw [← hd, ← List.drop_eq_getElem_cons hi, List.take_append_drop]
  · obtain ⟨j, hj, rfl⟩ := List.mem_take_iff_getElem.mp hd'
    exact hother (by omega) (by omega)
  · obtain ⟨j, hj, rfl⟩ := List.mem_drop_iff_getElem.mp hd'
    exact hother (by omega) (by omega)

/-- What a pass makes of a variable with one derivation. -/
lemma Sole.get?_of_refresh (h : env.Sole i d.name) (hd : env.derivations[i]? = some d)
    (hrefresh : env.refresh = .ok passed) :
    passed.store.get? d.name =
      if env.store.isBlocked d.name then env.store.get? d.name
      else (env.verdict d).request.getD (env.store.get? d.name) := by
  rw [Environment.get?_of_refresh hrefresh, demands, h.filter_eq hd, List.map_singleton,
    Derivation.Requests.prevailing_singleton]

/-- A derivation stays alone unless the change brings another one of its variable. -/
lemma Sole.perform {n : String} {change : Change} (h : env.Sole i n)
    (huntouched : ¬change.Touches n) : (change.perform env).Sole i n := by
  intro j d' hd' hname
  cases change with
  | refresh =>
    rw [Change.perform, refreshed_eq] at hd'
    cases hrefresh : env.refresh with
    | ok env' =>
      rw [hrefresh, derivations_of_refresh hrefresh, List.getElem?_map] at hd'
      obtain ⟨d, hd, rfl⟩ := Option.map_eq_some_iff.mp hd'
      exact h j d hd ((Derivation.name_after d _).symm.trans hname)
    | error e =>
      rw [hrefresh] at hd'
      exact h j d' hd' hname
  | add new =>
    rw [Change.perform, addDerivation, addDerivations, List.getElem?_append] at hd'
    split at hd'
    · exact h j d' hd' hname
    · obtain rfl := List.mem_singleton.mp (List.mem_of_getElem? hd')
      exact absurd hname huntouched
  | _ => exact h j d' hd' hname

lemma Sole.after {n : String} {changes : List Change} (h : env.Sole i n)
    (huntouched : ∀ change ∈ changes, ¬change.Touches n) : (env.after changes).Sole i n := by
  induction changes generalizing env with
  | nil => exact h
  | cons change changes ih =>
    rw [List.forall_mem_cons] at huntouched
    exact ih (h.perform huntouched.1) huntouched.2

/-! ### Marks -/

/-- A marked one-shot derivation is not evaluated. -/
lemma not_mem_evaluatedAt (hd : env.derivations[i]? = some d) (honce : d.oneShot = true)
    (hmark : d.evaluated = true) : i ∉ env.evaluatedAt := by
  intro h
  obtain ⟨d', hd', hactive⟩ := isActive_of_mem_evaluatedAt h
  obtain rfl : d = d' := Option.some.inj (hd.symm.trans hd')
  simp [Derivation.isActive, honce, hmark] at hactive

/-- A successful pass marks what it evaluates without an error. -/
lemma evaluated_of_refresh (hd : env.derivations[i]? = some d) (hi : i ∈ env.evaluatedAt)
    {value : Option String} (hvalue : env.evaluate d.expression env.store = .ok value)
    (hrefresh : env.refresh = .ok passed) :
    passed.derivations[i]? = some { d with evaluated := true } := by
  obtain ⟨d', hd', hactive⟩ := isActive_of_mem_evaluatedAt hi
  obtain rfl : d = d' := Option.some.inj (hd.symm.trans hd')
  have hverdict : env.verdict d = .computed value :=
    Derivation.judge_eq_computed_iff.mpr ⟨hactive, hvalue⟩
  rw [derivations_of_refresh hrefresh, List.getElem?_map, hd, Option.map_some, hverdict]
  rfl

/-- What a marked one-shot derivation asks for keeps the variable as it is while it is in force,
and only may unset it otherwise. -/
lemma getD_request_of_spent (honce : d.oneShot = true) (hmark : d.evaluated = true) :
    (env.verdict d).request.getD (env.store.get? d.name) =
      if d.inForce env.conditions env.store || !d.autoUnset then env.store.get? d.name
      else none := by
  obtain ⟨hforce, -, hv⟩ | ⟨hforce, -, -, hv⟩ | ⟨-, hactive, -⟩ :=
    Derivation.judge_cases env.conditions env.evaluate env.store d
  · rw [verdict, hv, hforce]
    cases d.autoUnset <;> rfl
  · rw [verdict, hv, hforce]
    cases h : env.store.get? d.name <;> simp
  · simp [Derivation.isActive, honce, hmark] at hactive

/-! ### Histories -/

/-- **One-shot derivations in a history.**  Whatever happens to an environment, its derivations keep
their declared fields and their positions and new ones come behind them, and a mark is never taken
away.  A marked one-shot derivation is not evaluated again; where it is the only one of its
variable, a successful pass leaves the variable as it is, unless the derivation is not in force:
then the pass unsets it if it may.  A successful pass that evaluates a one-shot derivation without
an error marks it, so there is at most one such pass. -/
theorem once_of_history (env : Environment) (changes : List Change) :
    let now := env.after changes
    (now.derivations.map Derivation.declared =
      env.derivations.map Derivation.declared ++
        (changes.filterMap Change.added?).map Derivation.declared) ∧
    (∀ (i : Nat) (d : Derivation), env.derivations[i]? = some d → d.evaluated = true →
      now.derivations[i]? = some d) ∧
    (∀ (i : Nat) (d : Derivation), env.derivations[i]? = some d → d.oneShot = true →
      d.evaluated = true →
        i ∉ now.evaluatedAt ∧
        ∀ passed, now.Sole i d.name → now.refresh = .ok passed →
          passed.store.get? d.name =
            if d.inForce now.conditions now.store || !d.autoUnset || now.store.isBlocked d.name
            then now.store.get? d.name
            else none) ∧
    (∀ (i : Nat) (d : Derivation) (value : Option String) (passed : Environment),
      env.derivations[i]? = some d → d.oneShot = true → i ∈ env.evaluatedAt →
      env.evaluate d.expression env.store = .ok value → env.refresh = .ok passed →
        passed.derivations[i]? = some { d with evaluated := true } ∧
          i ∉ (passed.after changes).evaluatedAt) := by
  refine ⟨declared_after_changes env changes,
    fun i d hd hmark => getElem?_after_of_evaluated hd hmark changes,
    fun i d hd honce hmark => ?_, fun i d value passed hd honce hi hvalue hrefresh => ?_⟩
  · have hnow := getElem?_after_of_evaluated hd hmark changes
    refine ⟨not_mem_evaluatedAt hnow honce hmark, fun passed hsole hrefresh => ?_⟩
    rw [hsole.get?_of_refresh hnow hrefresh, getD_request_of_spent honce hmark]
    cases (env.after changes).store.isBlocked d.name <;> simp
  · have hmarked := evaluated_of_refresh hd hi hvalue hrefresh
    exact ⟨hmarked,
      not_mem_evaluatedAt (getElem?_after_of_evaluated hmarked rfl changes) honce rfl⟩

/-- A value that is computed once: when it is taken away by hand, it does not come back, although
its condition still holds. -/
theorem once_of_unset :
    let d : Derivation :=
      { name := "N", expression := "one", condition? := some "b", oneShot := true }
    let env : Environment :=
      { store := .ofList [("B", "1")], derivations := [d],
        conditions := (ConditionTable.ofConditions [.equals "b" "B" "1"]).holds,
        evaluate := fun expression _ => .ok (some expression) }
    let passed := env.refreshed
    let later := passed.after [.unset "N"]
    env.refresh = .ok passed ∧ passed.store.get? "N" = some "one" ∧ 0 ∉ later.evaluatedAt ∧
      later.refresh = .ok later.refreshed ∧ later.refreshed.store.get? "N" = none := by
  intro d env passed later
  have hrefresh : env.refresh = .ok passed := refresh_eq_ok_refreshed (by decide +kernel)
  have hlater : later.refresh = .ok later.refreshed := refresh_eq_ok_refreshed (by decide +kernel)
  have hvalue : passed.store.get? "N" = some "one" := by decide +kernel
  obtain ⟨-, -, -, hmarks⟩ := once_of_history env [.unset "N"]
  obtain ⟨hmarked, hnot⟩ :=
    hmarks 0 d (some "one") passed rfl rfl (by decide +kernel) rfl hrefresh
  obtain ⟨-, -, hkeeps, -⟩ := once_of_history passed [.unset "N"]
  have hsole : later.Sole 0 "N" := by
    have hlength : later.derivations.length = 1 := by decide +kernel
    intro j d' hd' _
    have hj := (List.getElem?_eq_some_iff.mp hd').1
    omega
  refine ⟨hrefresh, hvalue, hnot, hlater, ?_⟩
  rw [(hkeeps 0 _ hmarked rfl rfl).2 _ hsole hlater]
  decide +kernel

end SetupWizard.Environment
