/-
# Derived variables settle

Every pass judges its derivations on the store as it was before the pass, so a change runs along a
chain of derived variables one link per pass.  Where the chains end, that is where every derivation
depends on variables of lower rank than its own only, the variables of rank below `k` have settled
after `k` passes, in whatever order the derivations were added, and they have settled at what their
derivations ask for.
-/
import SetupWizard.Proofs.Environment.History

namespace SetupWizard

namespace Derivation

/-- The answers that a derivation gets from its authorities depend on variables of lower rank than
its own only. -/
structure DependsBelow (conditions : Authority) (evaluate : Evaluator) (rank : String → Nat)
    (d : Derivation) : Prop where
  inForce (s s' : Store) : s.holds = s'.holds →
    (∀ n, rank n < rank d.name → s.get? n = s'.get? n) →
      d.inForce conditions s = d.inForce conditions s'
  evaluate (s s' : Store) : s.holds = s'.holds →
    (∀ n, rank n < rank d.name → s.get? n = s'.get? n) →
      evaluate d.expression s = evaluate d.expression s'

variable {conditions : Authority} {evaluate : Evaluator} {rank : String → Nat} {d d' : Derivation}

/-- It does not matter whether the derivation has been evaluated. -/
lemma DependsBelow.of_declared (h : d.DependsBelow conditions evaluate rank)
    (hdeclared : d'.declared = d.declared) : d'.DependsBelow conditions evaluate rank := by
  obtain ⟨hname, hexpression, hcondition, -⟩ := Derivation.mk.inj hdeclared
  refine ⟨fun s s' hholds hbelow => ?_, fun s s' hholds hbelow => ?_⟩
  · rw [hname] at hbelow
    simpa only [Derivation.inForce, hcondition] using h.inForce s s' hholds hbelow
  · rw [hname] at hbelow
    rw [hexpression]
    exact h.evaluate s s' hholds hbelow

/-! ### One derivation in two passes -/

/-- A derivation that gets the same answers has the same verdict, or keeps what its variable has. -/
lemma judge_again {s s' : Store} (hforce : d.inForce conditions s' = d.inForce conditions s)
    (hvalue : evaluate d.expression s' = evaluate d.expression s) :
    d.judge conditions evaluate s' = d.judge conditions evaluate s ∨
      d.judge conditions evaluate s' = .carried (s'.get? d.name) := by
  simp only [judge, hforce, hvalue]
  split
  · split
    · exact .inr rfl
    · exact .inl rfl
  · exact .inl rfl

/-- In the next pass, a derivation that gets the same answers has the same verdict or keeps what its
variable has in between. -/
lemma verdict_again {s s' : Store} (hforce : d.inForce conditions s' = d.inForce conditions s)
    (hvalue : evaluate d.expression s' = evaluate d.expression s) :
    let verdict := d.judge conditions evaluate s
    let verdict' := (d.after verdict).judge conditions evaluate s'
    verdict' = verdict ∨ verdict' = .carried (s'.get? d.name) := by
  intro verdict verdict'
  cases hv : verdict with
  | computed value =>
    -- The derivation is marked now, which matters only if it is evaluated once.
    obtain ⟨hactive, hcomputed⟩ := judge_eq_computed_iff.mp hv
    have hforced : d.inForce conditions s' = true := hforce.trans (inForce_of_isActive hactive)
    have hmarked : verdict' =
        if d.oneShot then .carried (s'.get? d.name) else .computed value := by
      simp only [verdict', hv, after, judge, inForce] at hforced ⊢
      simp [hforced, hvalue, hcomputed, ofOutcome]
    cases honce : d.oneShot with
    | true => exact .inr (by rw [hmarked, honce, if_pos rfl])
    | false => exact .inl (by rw [hmarked, honce]; rfl)
  | _ =>
    have hafter : d.after verdict = d := by rw [hv]; rfl
    have hagain := judge_again hforce hvalue
    rw [← hv]
    simp only [verdict', hafter]
    exact hagain

/-- A derivation that gets the same answers in the next pass asks for the same as before, or for
what its variable has in between. -/
lemma request_again {s s' : Store} (hforce : d.inForce conditions s' = d.inForce conditions s)
    (hvalue : evaluate d.expression s' = evaluate d.expression s) :
    let verdict := d.judge conditions evaluate s
    let verdict' := (d.after verdict).judge conditions evaluate s'
    verdict'.request = verdict.request ∨ verdict'.request = (s'.get? d.name).map some := by
  intro verdict verdict'
  rcases verdict_again hforce hvalue with hsame | hcarried
  · exact .inl (congrArg Verdict.request hsame)
  · exact .inr ((congrArg Verdict.request hcarried).trans (Verdict.request_carried _))

/-! ### One variable in two passes -/

namespace Requests

variable {ds : List Derivation} {x y : Derivation → Option (Option String)}

lemma foldl_join_again_of_value {v : String}
    (h : ∀ d ∈ ds, y d = x d ∨ y d = some (some v)) {a b : Option (Option String)}
    (hab : b = a ∨ b = some (some v)) :
    (ds.map y).foldl join b = (ds.map x).foldl join a ∨
      (ds.map y).foldl join b = some (some v) := by
  -- As long as the two runs differ, the second is at `v`, and any other value ends the difference.
  induction ds generalizing a b with
  | nil => exact hab
  | cons d ds ih =>
    rw [List.forall_mem_cons] at h
    refine ih h.2 ?_
    rcases h.1 with hd | hd
    · rw [hd]
      rcases hab with rfl | rfl
      · exact .inl rfl
      · rcases x d with _ | _ | u
        · exact .inr rfl
        · exact .inr rfl
        · exact .inl rfl
    · rw [hd]
      exact .inr rfl

/-- Where the requests for a variable are made again or give way to the value that it got by them,
it keeps this value. -/
lemma getD_prevailing_again {w before : Option String}
    (h : ∀ d ∈ ds, y d = x d ∨ y d = w.map some)
    (hw : (prevailing (ds.map x)).getD before = w) : (prevailing (ds.map y)).getD w = w := by
  cases w with
  | none =>
    -- A value that prevails now was asked for before, and so some value would have prevailed then.
    rcases hy : prevailing (ds.map y) with _ | _ | u
    · rfl
    · rfl
    · obtain ⟨d, hd, hu⟩ := List.mem_map.mp (mem_of_prevailing hy)
      have hx : x d = some (some u) := by
        rcases h d hd with hsame | hnone
        · rw [← hsame, hu]
        · rw [hu] at hnone
          cases hnone
      obtain ⟨u', hu'⟩ := exists_prevailing_eq_value.mpr ⟨u, List.mem_map.mpr ⟨d, hd, hx⟩⟩
      rw [hu'] at hw
      cases hw
  | some v =>
    rcases foldl_join_again_of_value h (a := none) (.inl rfl) with hy | hy
    · rw [prevailing] at hw ⊢
      rw [hy]
      cases hx : (ds.map x).foldl join none with
      | none => rfl
      | some r =>
        rw [hx] at hw
        exact hw
    · rw [prevailing, hy]
      rfl

end Requests

end Derivation

namespace Environment

variable {env env' env'' : Environment} {rank : String → Nat}

/-- The environment after a number of passes, if all of them succeed. -/
def passes (env : Environment) : Nat → Except RefreshError Environment
  | 0 => .ok env
  | k + 1 =>
    match passes env k with
    | .ok env' => env'.refresh
    | .error e => .error e

lemma passes_succ_eq_ok_iff {k : Nat} :
    env.passes (k + 1) = .ok env'' ↔
      ∃ env', env.passes k = .ok env' ∧ env'.refresh = .ok env'' := by
  rw [passes]
  cases env.passes k <;> simp

/-- If so many passes succeed, so do fewer. -/
lemma exists_passes_of_le {k j : Nat} (hkj : k ≤ j) (hj : env.passes j = .ok env'') :
    ∃ env', env.passes k = .ok env' := by
  induction hkj generalizing env'' with
  | refl => exact ⟨env'', hj⟩
  | step _ ih =>
    obtain ⟨before, hbefore, -⟩ := passes_succ_eq_ok_iff.mp hj
    exact ih hbefore

/-- What holds after `k` passes and is kept by each further pass holds from then on. -/
lemma passes_induction {P : Environment → Prop} {k j : Nat} (hkj : k ≤ j)
    (hk : env.passes k = .ok env') (hj : env.passes j = .ok env'') (hP : P env')
    (hstep : ∀ t now next, k ≤ t → env.passes t = .ok now → now.refresh = .ok next →
      P now → P next) : P env'' := by
  induction hkj generalizing env'' with
  | refl =>
    obtain rfl := Except.ok.inj (hk.symm.trans hj)
    exact hP
  | step hkj ih =>
    obtain ⟨before, hbefore, hrefresh⟩ := passes_succ_eq_ok_iff.mp hj
    exact hstep _ _ _ hkj hbefore hrefresh (ih hbefore)

/-- Passes in a row are a history. -/
lemma after_replicate_of_passes {k : Nat} (hk : env.passes k = .ok env') :
    env.after (List.replicate k .refresh) = env' := by
  induction k generalizing env' with
  | zero => exact Except.ok.inj hk
  | succ k ih =>
    obtain ⟨before, hbefore, hrefresh⟩ := passes_succ_eq_ok_iff.mp hk
    rw [List.replicate_succ', after_concat, ih hbefore]
    exact refreshed_of_ok hrefresh

lemma passes_eq_ok_of_isOk {k : Nat} (h : (env.passes k).isOk = true) :
    env.passes k = .ok (env.after (List.replicate k .refresh)) := by
  cases hk : env.passes k with
  | ok env' => rw [after_replicate_of_passes hk]
  | error e => simp [hk, Except.isOk, Except.toBool] at h

/-- Passes in a row bring no derivations. -/
lemma exists_declared_of_passes {k : Nat} (hk : env.passes k = .ok env') {d : Derivation}
    (hd : d ∈ env'.derivations) : ∃ d₀ ∈ env.derivations, d₀.declared = d.declared := by
  have hdeclared := declared_after_changes env (List.replicate k .refresh)
  have hnone : (List.replicate k Change.refresh).filterMap Change.added? = [] := by
    refine List.filterMap_eq_nil_iff.mpr fun change hchange => ?_
    rw [List.eq_of_mem_replicate hchange]
    rfl
  rw [after_replicate_of_passes hk, hnone, List.map_nil, List.append_nil] at hdeclared
  exact List.mem_map.mp (hdeclared ▸ List.mem_map_of_mem hd)

/-- The rules of every variable depend on variables of lower rank only. -/
def Ranked (env : Environment) (rank : String → Nat) : Prop :=
  ∀ d ∈ env.derivations, d.DependsBelow env.conditions env.evaluate rank

lemma Ranked.of_refresh (h : env.Ranked rank) (hrefresh : env.refresh = .ok env') :
    env'.Ranked rank := by
  obtain ⟨-, rfl⟩ := refresh_eq_ok_iff.mp hrefresh
  intro d' hd'
  obtain ⟨d, hd, rfl⟩ := List.mem_map.mp hd'
  exact (h d hd).of_declared (Derivation.declared_after d _)

lemma Ranked.of_passes (h : env.Ranked rank) {k : Nat} (hk : env.passes k = .ok env') :
    env'.Ranked rank := by
  refine passes_induction (P := fun e => e.Ranked rank) (Nat.zero_le k) rfl hk h ?_
  intro t now next _ _ hrefresh hnow
  exact hnow.of_refresh hrefresh

/-- The next pass asks the same derivations, some of which are marked now. -/
lemma demands_of_refresh (h : env.refresh = .ok env') (n : String) :
    env'.demands n = (env.derivations.filter fun d => d.name == n).map
      fun d => (env'.verdict (d.after (env.verdict d))).request := by
  rw [demands, derivations_of_refresh h, List.filter_map, List.map_map]
  simp [Function.comp_def]

/-- A variable whose derivations get the same answers in two passes in a row has settled with the
first of them. -/
lemma get?_refresh_again {n : String} (h : env.refresh = .ok env')
    (h' : env'.refresh = .ok env'')
    (hsame : ∀ d ∈ env.derivations, d.name = n →
      d.inForce env.conditions env'.store = d.inForce env.conditions env.store ∧
        env.evaluate d.expression env'.store = env.evaluate d.expression env.store) :
    env''.store.get? n = env'.store.get? n := by
  have hvalue := get?_of_refresh h n
  have hvalue' := get?_of_refresh h' n
  rw [(respects_of_refresh h).isBlocked n] at hvalue'
  cases hblocked : env.store.isBlocked n with
  | true => rw [hvalue', hblocked, if_pos rfl]
  | false =>
    simp only [hblocked, Bool.false_eq_true, if_false] at hvalue hvalue'
    rw [hvalue']
    rw [demands_of_refresh h]
    refine Derivation.Requests.getD_prevailing_again (fun d hd => ?_) hvalue.symm
    obtain ⟨hmem, hname⟩ := List.mem_filter.mp hd
    obtain rfl : d.name = n := beq_iff_eq.mp hname
    obtain ⟨hforce, heval⟩ := hsame d hmem rfl
    obtain ⟨-, rfl⟩ := refresh_eq_ok_iff.mp h
    exact Derivation.request_again hforce heval

/-- After `k` passes another pass leaves the variables of rank below `k` alone. -/
lemma get?_succ_passes (h : env.Ranked rank) {k t : Nat} (hkt : k ≤ t) {now next : Environment}
    (hnow : env.passes t = .ok now) (hnext : now.refresh = .ok next) {n : String}
    (hn : rank n < k) : next.store.get? n = now.store.get? n := by
  induction k generalizing t now next n with
  | zero => omega
  | succ k ih =>
    obtain ⟨t, rfl⟩ : ∃ t', t = t' + 1 := ⟨t - 1, by omega⟩
    obtain ⟨before, hbefore, hrefresh⟩ := passes_succ_eq_ok_iff.mp hnow
    -- What the derivations of the variable depend on has settled one pass before.
    refine get?_refresh_again hrefresh hnext fun d hd hname => ?_
    have hholds : now.store.holds = before.store.holds := (respects_of_refresh hrefresh).holds
    have hbelow (m : String) (hm : rank m < rank d.name) :
        now.store.get? m = before.store.get? m :=
      ih (by omega) hbefore hrefresh (by rw [hname] at hm; omega)
    have hranked := h.of_passes hbefore d hd
    exact ⟨hranked.inForce _ _ hholds hbelow, hranked.evaluate _ _ hholds hbelow⟩

/-- A pass leaves a variable without derivations alone. -/
lemma get?_of_refresh_of_no_derivation (h : env.refresh = .ok env') {n : String}
    (hn : ∀ d ∈ env.derivations, d.name ≠ n) : env'.store.get? n = env.store.get? n := by
  have hnone : (env.derivations.filter fun d => d.name == n) = [] :=
    List.filter_eq_nil_iff.mpr fun d hd hname => hn d hd (beq_iff_eq.mp hname)
  rw [get?_of_refresh h, demands, hnone]
  exact ite_self _

/-- Where no variable with a derivation has a rank of `k` or more, another pass after `k` passes
changes nothing in the store. -/
lemma store_succ_passes (h : env.Ranked rank) {k t : Nat} (hkt : k ≤ t) {now next : Environment}
    (hnow : env.passes t = .ok now) (hnext : now.refresh = .ok next)
    (hrank : ∀ d ∈ env.derivations, rank d.name < k) : next.store = now.store := by
  refine Store.ext_get? (fun n => ?_) (respects_of_refresh hnext).holds
  by_cases hn : ∃ d ∈ env.derivations, d.name = n
  · obtain ⟨d, hd, rfl⟩ := hn
    exact get?_succ_passes h hkt hnow hnext (hrank d hd)
  · refine get?_of_refresh_of_no_derivation hnext fun d hd hname => hn ?_
    obtain ⟨d₀, hd₀, hdeclared⟩ := exists_declared_of_passes hnow hd
    exact ⟨d₀, hd₀, (congrArg Derivation.name hdeclared).trans hname⟩

/-- What another pass leaves alone is what prevails among the requests. -/
lemma get?_of_prevailing {n : String} (h : env.refresh = .ok env')
    (hsame : env'.store.get? n = env.store.get? n) (hfree : env.store.isBlocked n = false)
    {r : Option String} (hr : Derivation.Requests.prevailing (env.demands n) = some r) :
    env.store.get? n = r := by
  rw [← hsame, get?_of_refresh h, hfree, hr]
  rfl

/-- **Chained derivations settle.**  If every derivation depends on variables of lower rank than
its own only, then the variables of rank below `k` are after any number of passes from `k` on what
they are after `k` passes; and once `k` exceeds the rank of every variable that has a derivation,
no further pass changes anything in the store.  If there is a further pass, a variable of rank below
`k` that is not blocked has settled at what its derivations ask for. -/
theorem settled_of_passes (h : env.Ranked rank) {k j : Nat} (hkj : k ≤ j)
    {settled later : Environment} (hk : env.passes k = .ok settled)
    (hj : env.passes j = .ok later) :
    (∀ n, rank n < k → later.store.get? n = settled.store.get? n) ∧
      ((∀ d ∈ env.derivations, rank d.name < k) → later.store = settled.store) ∧
      (k < j → ∀ n, rank n < k → settled.store.isBlocked n = false →
        ∀ r ∈ Derivation.Requests.prevailing (settled.demands n), settled.store.get? n = r) := by
  refine ⟨fun n hn => ?_, fun hrank => ?_, fun hlt n hn hfree r hr => ?_⟩
  · refine passes_induction (P := fun e => e.store.get? n = settled.store.get? n) hkj hk hj rfl ?_
    intro t now next hkt hnow hnext hsame
    rw [get?_succ_passes h hkt hnow hnext hn, hsame]
  · refine passes_induction (P := fun e => e.store = settled.store) hkj hk hj rfl ?_
    intro t now next hkt hnow hnext hsame
    rw [store_succ_passes h hkt hnow hnext hrank, hsame]
  · obtain ⟨next, hnext⟩ := exists_passes_of_le hlt hj
    obtain ⟨now, hnow, hrefresh⟩ := passes_succ_eq_ok_iff.mp hnext
    obtain rfl := Except.ok.inj (hk.symm.trans hnow)
    exact get?_of_prevailing hrefresh (get?_succ_passes h (Nat.le_refl k) hk hrefresh hn) hfree hr

/-- A chain of three variables, added from the end: the last one takes the value of the one in the
middle as soon as that one has a value, and the one in the middle takes that of the first. -/
theorem settled_of_chain :
    let env : Environment :=
      { derivations := [{ name := "Z", expression := "Y", condition? := some "Y" },
          { name := "Y", expression := "X" }, { name := "X", expression := "1", oneShot := true }],
        conditions := fun id store => (store.get? id).isSome,
        evaluate := fun expression store =>
          if expression = "1" then .ok (some "1") else .ok (store.get? expression) }
    let rank (n : String) : Nat := if n = "X" then 0 else if n = "Y" then 1 else 2
    let after (k : Nat) := env.after (List.replicate k .refresh)
    env.Ranked rank ∧ (∀ d ∈ env.derivations, rank d.name < 3) ∧
      env.passes 3 = .ok (after 3) ∧ env.passes 5 = .ok (after 5) ∧
      (after 3).store.get? "Z" = some "1" ∧ (after 5).store = (after 3).store := by
  intro env rank after
  have hranked : env.Ranked rank := by
    intro d hd
    simp only [env, List.mem_cons, List.not_mem_nil, or_false] at hd
    rcases hd with rfl | rfl | rfl
    · have hbelow (s s' : Store) (h : ∀ n, rank n < rank "Z" → s.get? n = s'.get? n) :
          s.get? "Y" = s'.get? "Y" := h "Y" (by decide)
      refine ⟨fun s s' _ h => ?_, fun s s' _ h => ?_⟩
      · simp [Derivation.inForce, env, hbelow s s' h]
      · simp [env, hbelow s s' h]
    · have hbelow (s s' : Store) (h : ∀ n, rank n < rank "Y" → s.get? n = s'.get? n) :
          s.get? "X" = s'.get? "X" := h "X" (by decide)
      exact ⟨fun _ _ _ _ => rfl, fun s s' _ h => by simp [env, hbelow s s' h]⟩
    · exact ⟨fun _ _ _ _ => rfl, fun _ _ _ _ => rfl⟩
  have hbound : ∀ d ∈ env.derivations, rank d.name < 3 := by decide
  have h₃ : env.passes 3 = .ok (after 3) := passes_eq_ok_of_isOk (by decide +kernel)
  have h₅ : env.passes 5 = .ok (after 5) := passes_eq_ok_of_isOk (by decide +kernel)
  exact ⟨hranked, hbound, h₃, h₅, by decide +kernel,
    (settled_of_passes hranked (by decide) h₃ h₅).2.1 hbound⟩

end Environment

end SetupWizard
