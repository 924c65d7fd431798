/-
# What a successful pass means

All conditions and expressions of a pass are judged on the store as it was before.  So a pass can be
told without its two phases: each derivation offers a value for its variable, or has the variable
cleared, or asks for nothing, and the last offer prevails over all other offers and over every
clearing.  The main result, `meaning_of_refresh`, says in these terms what becomes of the variables,
of the holds and of the marks of the derivations.
-/
import Mathlib.Data.List.Induction
import SetupWizard.Proofs.Derivation.Requests

namespace SetupWizard.Derivation

variable {conditions : Authority} {evaluate : Evaluator} {store store' : Store}
  {ds ds' : List Derivation} {d : Derivation} {n value : String}

/-! ### Offers -/

/-- The rule offers a value for its variable on a store. -/
inductive Offers (conditions : Authority) (evaluate : Evaluator) (store : Store)
    (d : Derivation) (value : String) : Prop
  /-- It was computed once, and its variable still has the value. -/
  | carried : d.inForce conditions store = true → d.oneShot = true → d.evaluated = true →
      store.get? d.name = some value → Offers conditions evaluate store d value
  /-- Its expression has the value. -/
  | computed : d.inForce conditions store = true → ¬(d.oneShot = true ∧ d.evaluated = true) →
      evaluate d.expression store = .ok (some value) → Offers conditions evaluate store d value

/-- The rule has its variable cleared on a store. -/
inductive Clears (conditions : Authority) (evaluate : Evaluator) (store : Store)
    (d : Derivation) : Prop
  /-- It is not in force. -/
  | withdrawn : d.inForce conditions store = false → d.autoUnset = true →
      Clears conditions evaluate store d
  /-- Its expression has no value. -/
  | empty : d.inForce conditions store = true → ¬(d.oneShot = true ∧ d.evaluated = true) →
      evaluate d.expression store = .ok none → Clears conditions evaluate store d
  /-- Its expression failed, without being broken, and that is to be ignored. -/
  | ignored {text : String} {causes : List String} : d.inForce conditions store = true →
      ¬(d.oneShot = true ∧ d.evaluated = true) → d.ignoreFailure = true →
      evaluate d.expression store = .error (.other text causes) →
      Clears conditions evaluate store d

/-- Among the rules for a variable the last one to offer a value offers this one. -/
def LastOffer (conditions : Authority) (evaluate : Evaluator) (store : Store)
    (ds : List Derivation) (n value : String) : Prop :=
  ∃ before d after, ds = before ++ d :: after ∧
    (d.name = n ∧ d.Offers conditions evaluate store value) ∧
    ∀ d' ∈ after, d'.name = n → ∀ other, ¬d'.Offers conditions evaluate store other

/-- Some rule for a variable offers a value. -/
def Offered (conditions : Authority) (evaluate : Evaluator) (store : Store)
    (ds : List Derivation) (n : String) : Prop :=
  ∃ d ∈ ds, d.name = n ∧ ∃ value, d.Offers conditions evaluate store value

/-- Some rule for a variable has it cleared. -/
def Cleared (conditions : Authority) (evaluate : Evaluator) (store : Store)
    (ds : List Derivation) (n : String) : Prop :=
  ∃ d ∈ ds, d.name = n ∧ d.Clears conditions evaluate store

lemma isActive_iff : d.isActive conditions store = true ↔
    d.inForce conditions store = true ∧ ¬(d.oneShot = true ∧ d.evaluated = true) := by
  rw [isActive, Bool.and_eq_true, Bool.not_eq_true', ← Bool.not_eq_true, Bool.and_eq_true]

/-- A rule asks for a value exactly if it offers it. -/
lemma request_eq_value_iff :
    (d.judge conditions evaluate store).request = some (some value) ↔
      d.Offers conditions evaluate store value := by
  constructor
  · intro h
    obtain ⟨-, -, hv⟩ | ⟨hforce, -, ⟨honce, hmark⟩, hv⟩ | ⟨hforce, hactive, hv⟩ :=
      judge_cases conditions evaluate store d
    · rw [hv] at h
      split at h <;> cases h
    · rw [hv] at h
      exact .carried hforce honce hmark (by simpa using h)
    · rw [hv, request_ofOutcome_eq_value] at h
      exact .computed hforce (isActive_iff.mp hactive).2 h
  · rintro (⟨hforce, honce, hmark, hcurrent⟩ | ⟨hforce, hfresh, hvalue⟩)
    · simp [judge, hforce, honce, hmark, hcurrent]
    · rw [judge_eq_computed_iff.mpr ⟨isActive_iff.mpr ⟨hforce, hfresh⟩, hvalue⟩]
      rfl

/-- A rule asks for an absence exactly if it has its variable cleared. -/
lemma request_eq_absence_iff :
    (d.judge conditions evaluate store).request = some none ↔
      d.Clears conditions evaluate store := by
  constructor
  · intro h
    obtain ⟨hforce, -, hv⟩ | ⟨-, -, -, hv⟩ | ⟨hforce, hactive, hv⟩ :=
      judge_cases conditions evaluate store d
    · cases hunset : d.autoUnset with
      | true => exact .withdrawn hforce hunset
      | false =>
        rw [hv, hunset] at h
        cases h
    · rw [hv] at h
      simp at h
    · have hfresh := (isActive_iff.mp hactive).2
      rw [hv] at h
      rcases hvalue : evaluate d.expression store with (message | ⟨text, causes⟩) | value
      · rw [hvalue] at h
        cases h
      · cases hignore : d.ignoreFailure with
        | true => exact .ignored hforce hfresh hignore hvalue
        | false => simp [hvalue, ofOutcome, hignore, Verdict.request] at h
      · rw [hvalue] at h
        obtain rfl : value = none := Option.some.inj h
        exact .empty hforce hfresh hvalue
  · rintro (⟨hforce, hunset⟩ | ⟨hforce, hfresh, hvalue⟩ | ⟨hforce, hfresh, hignore, hvalue⟩)
    · simp [judge, hforce, hunset, Verdict.request]
    · rw [judge_eq_computed_iff.mpr ⟨isActive_iff.mpr ⟨hforce, hfresh⟩, hvalue⟩]
      rfl
    · rw [← Bool.and_eq_true] at hfresh
      simp [judge, hforce, hfresh, hvalue, hignore, ofOutcome, Verdict.request]

/-! ### What prevails -/

/-- The last member with one property, and only members with another one behind it, in a list that
has grown by one. -/
lemma exists_split_concat_iff {α : Type} {P Q : α → Prop} {l : List α} {a : α} :
    (∃ before x after, l ++ [a] = before ++ x :: after ∧ P x ∧ ∀ y ∈ after, Q y) ↔
      P a ∨ (Q a ∧ ∃ before x after, l = before ++ x :: after ∧ P x ∧ ∀ y ∈ after, Q y) := by
  constructor
  · rintro ⟨before, x, after, h, hx, hafter⟩
    rcases List.eq_nil_or_concat after with rfl | ⟨init, last, rfl⟩
    · obtain ⟨-, hlast⟩ := List.append_inj' h rfl
      exact .inl ((List.cons.inj hlast).1 ▸ hx)
    · have hsplit : l ++ [a] = (before ++ x :: init) ++ [last] := by
        rw [h, List.concat_eq_append, List.append_assoc, List.cons_append]
      obtain ⟨rfl, hlast⟩ := List.append_inj' hsplit rfl
      obtain rfl := (List.cons.inj hlast).1
      rw [List.concat_eq_append, List.forall_mem_append] at hafter
      exact .inr ⟨hafter.2 a (List.mem_singleton_self a), before, x, init, rfl, hx, hafter.1⟩
  · rintro (ha | ⟨ha, before, x, after, rfl, hx, hafter⟩)
    · exact ⟨l, a, [], rfl, ha, fun y hy => absurd hy List.not_mem_nil⟩
    · refine ⟨before, x, after ++ [a], by simp, hx, List.forall_mem_append.mpr ⟨hafter, ?_⟩⟩
      exact fun y hy => List.mem_singleton.mp hy ▸ ha

lemma Requests.prevailing_concat (requests : List (Option (Option String)))
    (request : Option (Option String)) :
    prevailing (requests ++ [request]) = join (prevailing requests) request := by
  rw [prevailing, List.foldl_append]
  rfl

/-- What does not ask for a value takes none away. -/
lemma Requests.join_eq_value_iff {before request : Option (Option String)}
    (h : ∀ other, request ≠ some (some other)) :
    join before request = some (some value) ↔ before = some (some value) := by
  rcases request with _ | _ | other
  · rfl
  · rcases before with _ | _ | _ <;> simp [join]
  · exact absurd rfl (h other)

/-- **The last offer prevails.** -/
lemma prevailing_eq_value_iff :
    Requests.prevailing ((ds.filter fun d => d.name == n).map fun d =>
        (d.judge conditions evaluate store).request) = some (some value) ↔
      LastOffer conditions evaluate store ds n value := by
  induction ds using List.reverseRecOn with
  | nil => simp [Requests.prevailing, LastOffer]
  | append_singleton ds d ih =>
    rw [LastOffer, exists_split_concat_iff, ← LastOffer, ← ih, List.filter_append]
    by_cases hname : d.name = n
    · have hfilter : [d].filter (fun d => d.name == n) = [d] := by simp [hname]
      rw [hfilter, List.map_append, List.map_singleton, Requests.prevailing_concat,
        ← request_eq_value_iff]
      simp only [hname, true_and, forall_const, ← request_eq_value_iff]
      by_cases hoffer : ∃ other, (d.judge conditions evaluate store).request = some (some other)
      · obtain ⟨other, hother⟩ := hoffer
        rw [hother]
        simp [Requests.join]
      · have hnone := not_exists.mp hoffer
        simp [Requests.join_eq_value_iff hnone, hnone]
    · simp [hname]

/-- What the rules for a variable ask for. -/
lemma mem_requests_iff {request : Option (Option String)} :
    (request ∈ (ds.filter fun d => d.name == n).map fun d =>
        (d.judge conditions evaluate store).request) ↔
      ∃ d ∈ ds, d.name = n ∧ (d.judge conditions evaluate store).request = request := by
  simp [and_assoc]

/-- Where a value is offered, one prevails. -/
lemma offered_iff_exists_lastOffer :
    Offered conditions evaluate store ds n ↔
      ∃ value, LastOffer conditions evaluate store ds n value := by
  simp only [← prevailing_eq_value_iff, Requests.exists_prevailing_eq_value, mem_requests_iff,
    request_eq_value_iff, Offered]
  constructor
  · rintro ⟨d, hd, hname, value, hoffers⟩
    exact ⟨value, d, hd, hname, hoffers⟩
  · rintro ⟨value, d, hd, hname, hoffers⟩
    exact ⟨d, hd, hname, value, hoffers⟩

/-- Where no value is offered, an absence prevails as soon as one rule asks for it. -/
lemma prevailing_of_not_offered (h : ¬Offered conditions evaluate store ds n) :
    Requests.prevailing ((ds.filter fun d => d.name == n).map fun d =>
        (d.judge conditions evaluate store).request) = some none ↔
      Cleared conditions evaluate store ds n := by
  simp only [Cleared, ← request_eq_absence_iff, ← mem_requests_iff]
  refine ⟨Requests.mem_of_prevailing, fun hmem => ?_⟩
  cases hprevails : Requests.prevailing ((ds.filter fun d => d.name == n).map fun d =>
      (d.judge conditions evaluate store).request) with
  | none => cases Requests.prevailing_eq_none.mp hprevails _ hmem
  | some request =>
    cases request with
    | none => rfl
    | some value =>
      have hlast := prevailing_eq_value_iff.mp hprevails
      exact absurd (offered_iff_exists_lastOffer.mpr ⟨value, hlast⟩) h

/-! ### A pass -/

/-- A pass over a list of rules is a pass of an environment that has them. -/
lemma refresh_environment (h : refresh conditions evaluate ds store = .ok (ds', store')) :
    Environment.refresh { store, derivations := ds, conditions, evaluate } =
      .ok { store := store', derivations := ds', conditions, evaluate } := by
  rw [Environment.refresh_eq, h]

/-- What becomes of a variable that no hold stands against. -/
lemma get?_of_refresh (h : refresh conditions evaluate ds store = .ok (ds', store'))
    (hfree : store.isBlocked n = false) :
    store'.get? n = (Requests.prevailing ((ds.filter fun d => d.name == n).map fun d =>
      (d.judge conditions evaluate store).request)).getD (store.get? n) := by
  have hget := Environment.get?_of_refresh (refresh_environment h) n
  rwa [hfree, if_neg Bool.false_ne_true] at hget

lemma get?_of_lastOffer (h : refresh conditions evaluate ds store = .ok (ds', store'))
    (hfree : store.isBlocked n = false) (hlast : LastOffer conditions evaluate store ds n value) :
    store'.get? n = some value := by
  rw [get?_of_refresh h hfree, prevailing_eq_value_iff.mpr hlast, Option.getD_some]

lemma get?_of_cleared (h : refresh conditions evaluate ds store = .ok (ds', store'))
    (hfree : store.isBlocked n = false) (hnone : ¬Offered conditions evaluate store ds n)
    (hcleared : Cleared conditions evaluate store ds n) : store'.get? n = none := by
  rw [get?_of_refresh h hfree, (prevailing_of_not_offered hnone).mpr hcleared, Option.getD_some]

lemma get?_of_untouched (h : refresh conditions evaluate ds store = .ok (ds', store'))
    (hfree : store.isBlocked n = false) (hnone : ¬Offered conditions evaluate store ds n)
    (hkept : ¬Cleared conditions evaluate store ds n) : store'.get? n = store.get? n := by
  rw [get?_of_refresh h hfree]
  cases hprevails : Requests.prevailing ((ds.filter fun d => d.name == n).map fun d =>
      (d.judge conditions evaluate store).request) with
  | none => rfl
  | some request =>
    cases request with
    | none => exact absurd ((prevailing_of_not_offered hnone).mp hprevails) hkept
    | some value =>
      have hlast := prevailing_eq_value_iff.mp hprevails
      exact absurd (offered_iff_exists_lastOffer.mpr ⟨value, hlast⟩) hnone

/-- A verdict changes nothing about a rule but its mark. -/
lemma after_eq (d : Derivation) (v : Verdict) :
    d.after v = { d with evaluated := (d.after v).evaluated } := by
  cases v <;> rfl

/-- What has the mark after its verdict. -/
lemma evaluated_after_judge :
    (d.after (d.judge conditions evaluate store)).evaluated = true ↔ d.evaluated = true ∨
      (d.inForce conditions store = true ∧
        ∃ value, evaluate d.expression store = .ok value) := by
  simp only [evaluated_after, judge_eq_computed_iff, exists_and_left]
  cases hmark : d.evaluated with
  | true => simp
  | false => simp [isActive, hmark]

/-- **What a successful pass means.**  With all conditions and expressions judged on the store as it
was before the pass, a blocked variable stays as it is.  Any other variable has the last value that
is offered for it; if none is offered it is cleared where a rule has it cleared, and else it stays
as it is.  The holds and the declarations do not change, and a rule is marked as evaluated after the
pass if it was before or if it is in force and its expression was evaluated without an error. -/
theorem meaning_of_refresh (h : refresh conditions evaluate ds store = .ok (ds', store')) :
    (∀ n, store.isBlocked n = true → store'.get? n = store.get? n) ∧
    (∀ n, store.isBlocked n = false →
      (Offered conditions evaluate store ds n →
        ∃ value, LastOffer conditions evaluate store ds n value ∧ store'.get? n = some value) ∧
      (¬Offered conditions evaluate store ds n → Cleared conditions evaluate store ds n →
        store'.get? n = none) ∧
      (¬Offered conditions evaluate store ds n → ¬Cleared conditions evaluate store ds n →
        store'.get? n = store.get? n)) ∧
    store'.holds = store.holds ∧
    ds'.length = ds.length ∧
    ∀ (i : Nat) (d : Derivation), ds[i]? = some d →
      ∃ mark, ds'[i]? = some { d with evaluated := mark } ∧
        (mark = true ↔ d.evaluated = true ∨
          (d.inForce conditions store = true ∧
            ∃ value, evaluate d.expression store = .ok value)) := by
  have hrefresh := refresh_environment h
  have hrespects := Environment.respects_of_refresh hrefresh
  have hds : ds' = ds.map fun d => d.after (d.judge conditions evaluate store) :=
    congrArg Environment.derivations (Environment.refresh_eq_ok_iff.mp hrefresh).2
  refine ⟨hrespects.get?, fun n hfree => ⟨fun hoffered => ?_, get?_of_cleared h hfree,
    get?_of_untouched h hfree⟩, hrespects.holds, by rw [hds, List.length_map], fun i d hd => ?_⟩
  · obtain ⟨value, hlast⟩ := offered_iff_exists_lastOffer.mp hoffered
    exact ⟨value, hlast, get?_of_lastOffer h hfree hlast⟩
  · refine ⟨_, ?_, evaluated_after_judge⟩
    rw [hds, List.getElem?_map, hd, Option.map_some, after_eq]

/-- A pass with all kinds of verdicts: `A` is carried forward and then computed anew before a rule
that is not in force clears it, `K` is blocked, `U` fails and `B` has a rule that lets it alone. -/
theorem meaning_of_mixedPass :
    let ds : List Derivation :=
      [{ name := "A", expression := "1", oneShot := true, evaluated := true },
        { name := "A", expression := "2" },
        { name := "A", expression := "3", condition? := some "never" },
        { name := "K", expression := "new" },
        { name := "U", expression := "fail", ignoreFailure := true },
        { name := "B", expression := "new", condition? := some "never", autoUnset := false }]
    let conditions : Authority := fun id _ => id != "never"
    let evaluate : Evaluator := fun expression _ =>
      if expression = "fail" then .error (.other "no" []) else .ok (some expression)
    let store : Store := (Store.ofList [("A", "1"), ("K", "old"), ("U", "old"), ("B", "old")]).block
      "K" "panel"
    let ds' := ds.map fun d => d.after (d.judge conditions evaluate store)
    let store' := (store.set "A" "2").unset "U"
    refresh conditions evaluate ds store = .ok (ds', store') ∧
      store'.get? "K" = store.get? "K" ∧
      (∃ value, LastOffer conditions evaluate store ds "A" value ∧
        store'.get? "A" = some value) ∧
      store'.get? "U" = none ∧ store'.get? "B" = store.get? "B" := by
  intro ds conditions evaluate store ds' store'
  have hrefresh : refresh conditions evaluate ds store = .ok (ds', store') := by decide +kernel
  obtain ⟨hblocked, hfree, -⟩ := meaning_of_refresh hrefresh
  have hoffered : Offered conditions evaluate store ds "A" :=
    ⟨{ name := "A", expression := "2" }, by decide, rfl, "2", .computed rfl (by decide) rfl⟩
  have hnone (n : String) (h : ∀ d ∈ ds, d.name = n →
      (d.judge conditions evaluate store).request.join = none) :
      ¬Offered conditions evaluate store ds n := by
    rintro ⟨d, hd, hname, value, hoffers⟩
    have hjoin := h d hd hname
    rw [request_eq_value_iff.mpr hoffers] at hjoin
    cases hjoin
  have hcleared : Cleared conditions evaluate store ds "U" :=
    ⟨{ name := "U", expression := "fail", ignoreFailure := true }, by decide, rfl,
      .ignored rfl (by decide) rfl rfl⟩
  have hkept : ¬Cleared conditions evaluate store ds "B" := by
    have hdormant : ∀ d ∈ ds, d.name = "B" →
        (d.judge conditions evaluate store).request ≠ some none := by decide +kernel
    rintro ⟨d, hd, hname, hclears⟩
    exact hdormant d hd hname (request_eq_absence_iff.mpr hclears)
  exact ⟨hrefresh, hblocked "K" (by decide +kernel), (hfree "A" (by decide +kernel)).1 hoffered,
    (hfree "U" (by decide +kernel)).2.1 (hnone "U" (by decide +kernel)) hcleared,
    (hfree "B" (by decide +kernel)).2.2 (hnone "B" (by decide +kernel)) hkept⟩

end SetupWizard.Derivation
