/-
# Where a derived value comes from

Suppose that nothing but the passes writes a variable.  Whatever value it has was then computed by
one of its derivations, in a pass in which this derivation was in force, and the variable has kept
it ever since.  A pass after which the variable still has a value has a derivation in force for it.
These two derivations may differ: a one-shot derivation that is in force keeps what its variable
has, also if that is the value of another derivation whose condition does not hold any more.  Where
the one-shot derivations of a variable are alone, they are the same.
-/
import Mathlib.Data.List.Induction
import SetupWizard.Proofs.Environment.Once
import SetupWizard.Proofs.Replay

namespace SetupWizard

namespace Store

lemma isBlocked_extend (pairs : List (String × String)) (store : Store) (n : String) :
    (store.extend pairs).isBlocked n = store.isBlocked n := by
  rw [isBlocked, isBlocked, holds_extend]

end Store

namespace Environment

variable {env passed : Environment} {changes : List Change} {i : Nat} {d : Derivation}
  {n v : String}

/-! ### One pass -/

/-- What asks for a value computes it now or keeps it. -/
lemma request_eq_value (h : (env.verdict d).request = some (some v)) :
    d.inForce env.conditions env.store = true ∧
      ((d.isActive env.conditions env.store = true ∧
          env.evaluate d.expression env.store = .ok (some v)) ∨
        (d.oneShot = true ∧ d.evaluated = true ∧ env.store.get? d.name = some v)) := by
  obtain ⟨-, -, hv⟩ | ⟨hforce, -, ⟨honce, hmark⟩, hv⟩ | ⟨hforce, hactive, hv⟩ :=
    Derivation.judge_cases env.conditions env.evaluate env.store d
  · rw [verdict, hv] at h
    split at h <;> cases h
  · rw [verdict, hv] at h
    exact ⟨hforce, .inr ⟨honce, hmark, by simpa using h⟩⟩
  · rw [verdict, hv, Derivation.request_ofOutcome_eq_value] at h
    exact ⟨hforce, .inl ⟨hactive, h⟩⟩

/-- What asks for nothing, although it may unset its variable, keeps an absent value. -/
lemma get?_of_request_eq_none (hunset : d.autoUnset = true)
    (hgoes : (env.verdict d).isFailed = false) (h : (env.verdict d).request = none) :
    env.store.get? d.name = none := by
  obtain ⟨-, -, hv⟩ | ⟨-, -, -, hv⟩ | ⟨-, -, hv⟩ :=
    Derivation.judge_cases env.conditions env.evaluate env.store d
  · rw [verdict, hv, hunset] at h
    cases h
  · rw [verdict, hv] at h
    simpa using h
  · rw [verdict, hv] at h hgoes
    exact absurd h (Derivation.request_ofOutcome_ne_none hgoes)

/-- A value after a pass was asked for by a derivation, or it was there before and none asked for
anything. -/
lemma request_of_refresh (h : env.refresh = .ok passed) (hfree : env.store.isBlocked n = false)
    (hv : passed.store.get? n = some v) :
    (∃ (i : Nat) (d : Derivation), env.derivations[i]? = some d ∧ d.name = n ∧
        (env.verdict d).request = some (some v)) ∨
      (env.store.get? n = some v ∧
        ∀ d ∈ env.derivations, d.name = n → (env.verdict d).request = none) := by
  rw [get?_of_refresh h, hfree, if_neg Bool.false_ne_true] at hv
  cases hdemand : Derivation.Requests.prevailing (env.demands n) with
  | none =>
    rw [hdemand] at hv
    refine .inr ⟨hv, fun d hd hname => Derivation.Requests.prevailing_eq_none.mp hdemand _ ?_⟩
    exact List.mem_map_of_mem (List.mem_filter.mpr ⟨hd, beq_iff_eq.mpr hname⟩)
  | some r =>
    rw [hdemand] at hv
    obtain rfl : r = some v := hv
    obtain ⟨d, hd, hrequest⟩ := List.mem_map.mp (Derivation.Requests.mem_of_prevailing hdemand)
    obtain ⟨hmem, hname⟩ := List.mem_filter.mp hd
    obtain ⟨i, hi⟩ := List.getElem?_of_mem hmem
    exact .inl ⟨i, d, hi, beq_iff_eq.mp hname, hrequest⟩

/-- In a pass on the environment the derivation at a position, which is one of the variable `n`, is
in force and its expression has the value `v`. -/
def Computes (env : Environment) (i : Nat) (n v : String) : Prop :=
  ∃ d, env.derivations[i]? = some d ∧ d.name = n ∧
    d.isActive env.conditions env.store = true ∧
      env.evaluate d.expression env.store = .ok (some v)

/-- The derivation that computes a value is still there after more has happened. -/
lemma Computes.exists_after {earlier : List Change} (h : (env.after earlier).Computes i n v)
    (later : List Change) :
    ∃ d, (env.after (earlier ++ later)).derivations[i]? = some d ∧ d.name = n := by
  obtain ⟨d, hd, hname, -⟩ := h
  obtain ⟨d', hd', hpersists⟩ := getElem?_after hd later
  exact ⟨d', by rw [after_append, hd'], hpersists.name.trans hname⟩

/-! ### Histories that leave a variable to the passes -/

/-- Whether a change writes neither a variable nor its holds nor its derivations, passes aside. -/
def Change.Spares (n : String) : Change → Prop
  | .add d => d.name ≠ n
  | .set name _ => name ≠ n
  | .unset name => name ≠ n
  | .extend pairs => ∀ pair ∈ pairs, pair.1 ≠ n
  | .block name _ => name ≠ n
  | _ => True

variable {change : Change}

lemma Change.Spares.not_touches (h : change.Spares n) : ¬change.Touches n := by
  cases change with
  | extend pairs => exact fun ⟨pair, hpair, hn⟩ => h pair hpair hn
  | add d => exact h
  | set name value => exact h
  | unset name => exact h
  | _ => exact id

lemma evaluate_refreshed (env : Environment) : env.refreshed.evaluate = env.evaluate := by
  rw [refreshed_eq]
  cases h : env.refresh with
  | ok env' =>
    obtain ⟨-, rfl⟩ := refresh_eq_ok_iff.mp h
    rfl
  | error e => rfl

lemma Change.Spares.isBlocked_perform (h : change.Spares n)
    (hfree : env.store.isBlocked n = false) : (change.perform env).store.isBlocked n = false := by
  cases change with
  | refresh => rw [Change.perform, (respects_refreshed env).isBlocked, hfree]
  | extend pairs => exact (Store.isBlocked_extend pairs env.store n).trans hfree
  | block name holder =>
    refine (Store.isBlocked_block env.store name holder n).trans ?_
    rw [hfree, beq_false_of_ne h, Bool.or_false]
  | unblock name holder =>
    refine Bool.eq_false_iff.mpr fun hblocked => ?_
    rw [Store.isBlocked_of_unblock hblocked] at hfree
    cases hfree
  | _ => exact hfree

/-- In such a history the variable gets no other derivations. -/
lemma exists_declared_of_spares (hspares : ∀ change ∈ changes, change.Spares n)
    (hd : d ∈ (env.after changes).derivations) (hname : d.name = n) :
    ∃ d₀ ∈ env.derivations, d₀.declared = d.declared := by
  have hmem : d.declared ∈ (env.after changes).derivations.map Derivation.declared :=
    List.mem_map_of_mem hd
  rw [declared_after_changes, List.mem_append, List.mem_map, List.mem_map] at hmem
  refine hmem.resolve_right fun ⟨new, hnew, hdeclared⟩ => ?_
  obtain ⟨change, hchange, hadd⟩ := List.mem_filterMap.mp hnew
  cases change with
  | add d' =>
    cases hadd
    exact hspares _ hchange ((congrArg Derivation.name hdeclared).trans hname)
  | _ => cases hadd

/-- A successful pass of the history computed the value `v` by the derivation at a position, and
the variable has kept it ever since. -/
def KeptSince (env : Environment) (changes : List Change) (i : Nat) (n v : String) : Prop :=
  ∃ earlier later, changes = earlier ++ .refresh :: later ∧
    (env.after earlier).refresh.isOk = true ∧ (env.after earlier).Computes i n v ∧
      ∀ middle, middle <+: later →
        (env.after (earlier ++ .refresh :: middle)).store.get? n = some v

/-- A value that is there when more has happened is the same value. -/
lemma KeptSince.concat (h : KeptSince env changes i n v)
    (hkept : (env.after (changes ++ [change])).store.get? n = some v) :
    KeptSince env (changes ++ [change]) i n v := by
  obtain ⟨earlier, later, rfl, hok, hcomputes, hsince⟩ := h
  refine ⟨earlier, later ++ [change], by simp, hok, hcomputes, fun middle hmiddle => ?_⟩
  rcases List.prefix_concat_iff.mp hmiddle with rfl | hmiddle
  · simpa using hkept
  · exact hsince middle hmiddle

/-- A value that the last pass computed. -/
lemma KeptSince.of_computes (hpass : (env.after changes).refresh = .ok passed)
    (hcomputes : (env.after changes).Computes i n v) (hv : passed.store.get? n = some v) :
    KeptSince env (changes ++ [.refresh]) i n v := by
  refine ⟨changes, [], rfl, by rw [hpass]; rfl, hcomputes, fun middle hmiddle => ?_⟩
  obtain rfl := List.prefix_nil.mp hmiddle
  rw [after_concat, Change.perform, refreshed_of_ok hpass, hv]

/-- In such a history the variable stays free. -/
lemma isBlocked_after_of_spares (hfree : env.store.isBlocked n = false)
    (hspares : ∀ change ∈ changes, change.Spares n) :
    (env.after changes).store.isBlocked n = false := by
  induction changes generalizing env with
  | nil => exact hfree
  | cons change changes ih =>
    rw [List.forall_mem_cons] at hspares
    exact ih (hspares.1.isBlocked_perform hfree) hspares.2

/-- What such a variable has after one more change is computed in it, or it had it before. -/
lemma exists_keptSince_concat (hfree : (env.after changes).store.isBlocked n = false)
    (hkept : ∀ v, (env.after changes).store.get? n = some v → ∃ i, KeptSince env changes i n v)
    (hspares : change.Spares n) (hv : (env.after (changes ++ [change])).store.get? n = some v) :
    ∃ i, KeptSince env (changes ++ [change]) i n v := by
  have hstays (hsame : (env.after changes).store.get? n = some v) :
      ∃ i, KeptSince env (changes ++ [change]) i n v :=
    (hkept v hsame).imp fun i h => h.concat hv
  have hget := hv
  rw [after_concat] at hget
  by_cases hrefresh : change = .refresh
  · subst hrefresh
    rw [Change.perform, refreshed_eq] at hget
    cases hpass : (env.after changes).refresh with
    | error e =>
      rw [hpass] at hget
      exact hstays hget
    | ok passed =>
      rw [hpass] at hget
      rcases request_of_refresh hpass hfree hget with ⟨i, d, hd, rfl, hrequest⟩ | ⟨hsame, -⟩
      · rcases request_eq_value hrequest with ⟨-, ⟨hactive, hvalue⟩ | ⟨-, -, hsame⟩⟩
        · exact ⟨i, .of_computes hpass ⟨d, hd, rfl, hactive, hvalue⟩ hget⟩
        · exact hstays hsame
      · exact hstays hsame
  · exact hstays ((get?_perform hspares.not_touches hrefresh).symm.trans hget)

/-- Whatever value such a variable has, it has kept it since a pass that computed it. -/
lemma exists_keptSince (habsent : env.store.get? n = none) (hfree : env.store.isBlocked n = false)
    (hspares : ∀ change ∈ changes, change.Spares n)
    (hv : (env.after changes).store.get? n = some v) : ∃ i, KeptSince env changes i n v := by
  induction changes using List.reverseRecOn generalizing v with
  | nil => simp [habsent] at hv
  | append_singleton changes change ih =>
    have hearlier : ∀ c ∈ changes, c.Spares n := fun c hc => hspares c (List.mem_append_left _ hc)
    exact exists_keptSince_concat (isBlocked_after_of_spares hfree hearlier)
      (fun v hv => ih hearlier hv) (hspares change (by simp)) hv

/-- The derivation that computed a kept value asks for something in the next pass too, if only to
unset its variable. -/
lemma KeptSince.exists_asking (h : KeptSince env changes i n v)
    (hunset : ∀ d ∈ env.derivations, d.name = n → d.autoUnset = true)
    (hspares : ∀ change ∈ changes, change.Spares n)
    (hpass : (env.after changes).refresh = .ok passed) :
    ∃ d ∈ (env.after changes).derivations, d.name = n ∧
      ((env.after changes).verdict d).request ≠ none := by
  obtain ⟨earlier, later, rfl, -, hcomputes, hsince⟩ := h
  have hv := hsince later (List.prefix_refl later)
  obtain ⟨d, hd, hname⟩ := hcomputes.exists_after (.refresh :: later)
  have hmem := List.mem_of_getElem? hd
  obtain ⟨d₀, hd₀, hdeclared⟩ := exists_declared_of_spares hspares hmem hname
  have hunset' : d.autoUnset = true := by
    rw [← hunset d₀ hd₀ ((congrArg Derivation.name hdeclared).trans hname)]
    exact (congrArg Derivation.autoUnset hdeclared).symm
  refine ⟨d, hmem, hname, fun hnone => ?_⟩
  have hget := get?_of_request_eq_none hunset' ((refresh_eq_ok_iff.mp hpass).1 d hmem) hnone
  rw [hname, hv] at hget
  cases hget

/-! ### Main results -/

/-- Some derivation of the variable that is in force on the last pass of a history computed its
value, in that pass or, if it is evaluated once, in an earlier pass. -/
def FromRuleInForce (env : Environment) (changes : List Change) (n v : String) : Prop :=
  ∃ i d, (env.after changes).derivations[i]? = some d ∧ d.name = n ∧
    d.inForce (env.after changes).conditions (env.after changes).store = true ∧
      ((env.after changes).Computes i n v ∨
        (d.oneShot = true ∧ ∃ earlier later, changes = earlier ++ .refresh :: later ∧
          (env.after earlier).refresh.isOk = true ∧ (env.after earlier).Computes i n v))

/-- **Where a derived value comes from.**  Suppose that a variable is absent and not blocked, that
its derivations unset it while they are not in force, and that only passes write it.  If it has a
value after a successful pass, then one of its derivations is in force on this pass and either
computes the value in it or is a one-shot derivation that keeps it; in that case a derivation of the
variable computed the value in an earlier pass, being in force then, and the variable has had it
ever since.  If moreover a one-shot derivation of the variable is its only one, then the derivation
that is in force is the one that computed the value. -/
theorem provenance_of_history (habsent : env.store.get? n = none)
    (hfree : env.store.isBlocked n = false)
    (hunset : ∀ d ∈ env.derivations, d.name = n → d.autoUnset = true)
    (hspares : ∀ change ∈ changes, change.Spares n)
    (hpass : (env.after changes).refresh = .ok passed) (hv : passed.store.get? n = some v) :
    (∃ i d, (env.after changes).derivations[i]? = some d ∧ d.name = n ∧
      d.inForce (env.after changes).conditions (env.after changes).store = true ∧
        ((env.after changes).Computes i n v ∨
          (d.oneShot = true ∧ d.evaluated = true ∧ ∃ j, KeptSince env changes j n v))) ∧
    ((∀ i d, (env.after changes).derivations[i]? = some d → d.name = n → d.oneShot = true →
        (env.after changes).Sole i n) → FromRuleInForce env changes n v) := by
  have hfree' := isBlocked_after_of_spares hfree hspares
  obtain ⟨i, d, hd, hname, hforce, hfrom⟩ : ∃ i d, (env.after changes).derivations[i]? = some d ∧
      d.name = n ∧ d.inForce (env.after changes).conditions (env.after changes).store = true ∧
        ((env.after changes).Computes i n v ∨
          (d.oneShot = true ∧ d.evaluated = true ∧ ∃ j, KeptSince env changes j n v)) := by
    rcases request_of_refresh hpass hfree' hv with ⟨i, d, hd, rfl, hrequest⟩ | ⟨hsame, hnone⟩
    · obtain ⟨hforce, ⟨hactive, hvalue⟩ | ⟨honce, hmark, hsame⟩⟩ := request_eq_value hrequest
      · exact ⟨i, d, hd, rfl, hforce, .inl ⟨d, hd, rfl, hactive, hvalue⟩⟩
      · have hkept := exists_keptSince habsent hfree hspares hsame
        exact ⟨i, d, hd, rfl, hforce, .inr ⟨honce, hmark, hkept⟩⟩
    · obtain ⟨j, hkept⟩ := exists_keptSince habsent hfree hspares hsame
      obtain ⟨d, hd, hname, hasks⟩ := hkept.exists_asking hunset hspares hpass
      exact absurd (hnone d hd hname) hasks
  refine ⟨⟨i, d, hd, hname, hforce, hfrom⟩, fun hsole => ⟨i, d, hd, hname, hforce, ?_⟩⟩
  rcases hfrom with hcomputes | ⟨honce, -, j, earlier, later, rfl, hok, hcomputes, -⟩
  · exact .inl hcomputes
  · obtain ⟨d', hd', hname'⟩ := hcomputes.exists_after (.refresh :: later)
    obtain rfl : j = i := hsole i d hd hname honce j d' hd' hname'
    exact .inr ⟨honce, earlier, later, rfl, hok, hcomputes⟩

/-- A variable with a derivation that is evaluated once and another that depends on a condition,
which holds at first. -/
def contested : Environment where
  store := .ofList [("B", "1")]
  derivations := [{ name := "N", expression := "one", oneShot := true },
    { name := "N", expression := "two", condition? := some "b" }]
  conditions := (ConditionTable.ofConditions [.equals "b" "B" "1"]).holds
  evaluate := fun expression _ => .ok (some expression)

/-- After the condition has ceased to hold, the first derivation keeps the value of the second.  By
itself it keeps its own. -/
theorem provenance_of_switch :
    let changes : List Change := [.refresh, .set "B" "0"]
    let alone : Environment := { contested with derivations := contested.derivations.take 1 }
    let last := contested.after changes
    last.refresh = .ok last.refreshed ∧ last.refreshed.store.get? "N" = some "two" ∧
      (∃ i d, last.derivations[i]? = some d ∧ d.name = "N" ∧
        d.inForce last.conditions last.store = true ∧
          (last.Computes i "N" "two" ∨
            (d.oneShot = true ∧ d.evaluated = true ∧
              ∃ j, KeptSince contested changes j "N" "two"))) ∧
      FromRuleInForce alone changes "N" "one" := by
  intro changes alone last
  have hspares : ∀ change ∈ changes, change.Spares "N" := by
    simp [changes, Change.Spares]
  have hpass : last.refresh = .ok last.refreshed := refresh_eq_ok_refreshed (by decide +kernel)
  have hv : last.refreshed.store.get? "N" = some "two" := by decide +kernel
  have hpass' : (alone.after changes).refresh = .ok (alone.after changes).refreshed :=
    refresh_eq_ok_refreshed (by decide +kernel)
  have hsole (i : Nat) (d : Derivation) (hd : (alone.after changes).derivations[i]? = some d) :
      (alone.after changes).Sole i "N" := by
    have hlength : (alone.after changes).derivations.length = 1 := by decide +kernel
    intro j d' hd' _
    have hi := (List.getElem?_eq_some_iff.mp hd).1
    have hj := (List.getElem?_eq_some_iff.mp hd').1
    omega
  refine ⟨hpass, hv, (provenance_of_history (by decide +kernel) (by decide +kernel)
    (by decide +kernel) hspares hpass hv).1, ?_⟩
  exact (provenance_of_history (by decide +kernel) (by decide +kernel) (by decide +kernel) hspares
    hpass' (by decide +kernel)).2 fun i d hd _ _ => hsole i d hd

/-- The value does not come from a derivation that is in force: the only one that is would compute
another value, then and now. -/
theorem not_fromRuleInForce_of_switch :
    let changes : List Change := [.refresh, .set "B" "0"]
    let last := contested.after changes
    contested.store.get? "N" = none ∧ contested.store.isBlocked "N" = false ∧
      (∀ d ∈ contested.derivations, d.name = "N" → d.evaluated = false ∧ d.autoUnset = true) ∧
      (∀ change ∈ changes, change.Spares "N") ∧ contested.refresh = .ok contested.refreshed ∧
      last.refresh = .ok last.refreshed ∧ last.refreshed.store.get? "N" = some "two" ∧
      ¬FromRuleInForce contested changes "N" "two" := by
  intro changes last
  refine ⟨by decide +kernel, by decide +kernel, by decide +kernel, by simp [changes, Change.Spares],
    refresh_eq_ok_refreshed (by decide +kernel), refresh_eq_ok_refreshed (by decide +kernel),
    by decide +kernel, ?_⟩
  rintro ⟨i, d, hd, -, hforce, hfrom⟩
  -- The first derivation has another value in every environment, and the second is not in force.
  have hfirst {env : Environment} (hds : env.derivations[0]?.map Derivation.expression = some "one")
      (hevaluate : env.evaluate = contested.evaluate) : ¬env.Computes 0 "N" "two" := by
    rintro ⟨d, hd, -, -, hvalue⟩
    rw [hd, Option.map_some, Option.some.injEq] at hds
    rw [hevaluate, hds] at hvalue
    simp [contested] at hvalue
  have hzero : i = 0 := by
    have hsecond : last.derivations[1]?.all fun d => !d.inForce last.conditions last.store := by
      decide +kernel
    have hlength : last.derivations.length = 2 := by decide +kernel
    have hi : i < last.derivations.length := (List.getElem?_eq_some_iff.mp hd).1
    rcases i with _ | _ | i
    · rfl
    · rw [hd] at hsecond
      simp [last, hforce] at hsecond
    · omega
  subst hzero
  rcases hfrom with hnow | ⟨-, earlier, later, hsplit, -, hthen⟩
  · have hevaluate : last.evaluate = contested.evaluate := evaluate_refreshed contested
    exact hfirst (by decide +kernel) hevaluate hnow
  · have hnil : earlier = [] := by
      rcases earlier with _ | ⟨_, _ | ⟨_, _⟩⟩ <;> simp [changes] at hsplit ⊢
    subst hnil
    exact hfirst rfl rfl hthen

end Environment

end SetupWizard
