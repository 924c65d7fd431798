/-
# What a pass does to one variable

The requests of a pass are collected by name, so a pass treats every variable by itself: all that
counts for it are the requests of its own derivations, in their order.  A value prevails over the
values before it and over every absence; an absence prevails only where no value is asked for.  The
main result, `Environment.get?_of_refresh`, says what a variable is after a pass in these terms.
-/
import SetupWizard.Proofs.Derivation.Pass
import SetupWizard.Proofs.Refresh

namespace SetupWizard

namespace Derivation

/-! ### What a verdict asks for -/

@[simp] lemma Verdict.request_carried (current : Option String) :
    (Verdict.carried current).request = current.map some := by
  cases current <;> rfl

lemma request_ofOutcome_eq_value {d : Derivation} {outcome : Except EvaluationError (Option String)}
    {value : String} :
    (d.ofOutcome outcome).request = some (some value) ↔ outcome = .ok (some value) := by
  rcases outcome with (message | ⟨text, causes⟩) | value'
  · simp [ofOutcome, Verdict.request]
  · simp only [ofOutcome]
    split <;> simp [Verdict.request]
  · simp [ofOutcome, Verdict.request]

/-- An evaluation asks for something unless it fails. -/
lemma request_ofOutcome_ne_none {d : Derivation}
    {outcome : Except EvaluationError (Option String)}
    (h : (d.ofOutcome outcome).isFailed = false) : (d.ofOutcome outcome).request ≠ none := by
  rcases outcome with (message | ⟨text, causes⟩) | value'
  · simp [ofOutcome, Verdict.isFailed] at h
  · simp only [ofOutcome] at h ⊢
    split <;> simp_all [Verdict.isFailed, Verdict.request]
  · simp [ofOutcome, Verdict.request]

namespace Requests

/-! ### Requests for one variable -/

/-- One more request for a variable, after what was asked for before. -/
def join (before : Option (Option String)) : Option (Option String) → Option (Option String)
  | none => before
  | some none => before.or (some none)
  | some (some value) => some (some value)

/-- What prevails among the requests for a variable. -/
def prevailing (requests : List (Option (Option String))) : Option (Option String) :=
  requests.foldl join none

@[simp] lemma join_eq_none {before request : Option (Option String)} :
    join before request = none ↔ before = none ∧ request = none := by
  rcases before with _ | before <;> rcases request with _ | _ | value <;> simp [join]

lemma eq_or_eq_of_join {before request : Option (Option String)} {r : Option String}
    (h : join before request = some r) : before = some r ∨ request = some r := by
  rcases before with _ | before <;> rcases request with _ | _ | value <;> simp_all [join]

@[simp] lemma prevailing_singleton (request : Option (Option String)) :
    prevailing [request] = request := by
  rcases request with _ | _ | value <;> rfl

/-- Nothing prevails only if nothing is asked for. -/
lemma prevailing_eq_none {requests : List (Option (Option String))} :
    prevailing requests = none ↔ ∀ request ∈ requests, request = none := by
  suffices h : ∀ before, requests.foldl join before = none ↔
      before = none ∧ ∀ request ∈ requests, request = none by
    simpa [prevailing] using h none
  induction requests with
  | nil => simp
  | cons request requests ih => simp [ih, and_assoc]

/-- Whatever prevails is asked for. -/
lemma mem_of_prevailing {requests : List (Option (Option String))} {r : Option String}
    (h : prevailing requests = some r) : some r ∈ requests := by
  suffices h' : ∀ before, requests.foldl join before = some r →
      before = some r ∨ some r ∈ requests by
    simpa using h' none h
  clear h
  induction requests with
  | nil => exact fun before h => .inl h
  | cons request requests ih =>
    intro before h
    rcases ih _ h with hjoin | hmem
    · rcases eq_or_eq_of_join hjoin with rfl | rfl
      · exact .inl rfl
      · exact .inr (List.mem_cons_self ..)
    · exact .inr (List.mem_cons_of_mem _ hmem)

/-- A value prevails over every absence. -/
lemma exists_prevailing_eq_value {requests : List (Option (Option String))} :
    (∃ value, prevailing requests = some (some value)) ↔ ∃ value, some (some value) ∈ requests := by
  refine ⟨fun ⟨value, h⟩ => ⟨value, mem_of_prevailing h⟩, ?_⟩
  suffices h : ∀ before, ((∃ value, before = some (some value)) ∨
      ∃ value, some (some value) ∈ requests) →
        ∃ value, requests.foldl join before = some (some value) from fun hmem => h none (.inr hmem)
  induction requests with
  | nil => simp
  | cons request requests ih =>
    rintro before (⟨value, rfl⟩ | ⟨value, hmem⟩)
    · refine ih _ (.inl ?_)
      rcases request with _ | _ | value' <;> simp [join]
    · rcases List.mem_cons.mp hmem with rfl | hmem
      · exact ih _ (.inl ⟨value, rfl⟩)
      · exact ih _ (.inr ⟨value, hmem⟩)

/-! ### The collected requests -/

/-- What the collected requests amount to for one variable. -/
def request? (requests : Requests) (n : String) : Option (Option String) :=
  match requests.toSet[n]?, requests.toUnset.contains n with
  | some value, _ => some (some value)
  | none, true => some none
  | none, false => none

lemma join_request? (requests : Requests) (n : String) :
    (requests.request? n).join = requests.toSet[n]? := by
  unfold request?
  split <;> simp [*]

lemma request?_eq_absence_iff {requests : Requests} {n : String} :
    requests.request? n = some none ↔ requests.toSet[n]? = none ∧ n ∈ requests.toUnset := by
  rw [← Std.ExtTreeSet.contains_iff_mem]
  unfold request?
  split <;> simp [*]

/-- Adding a request to those for one variable. -/
lemma request?_add (requests : Requests) (name : String) (request : Option (Option String))
    (n : String) :
    (requests.add name request).request? n =
      if name = n then join (requests.request? n) request else requests.request? n := by
  rcases request with _ | _ | value
  · simp [add, join]
  · by_cases hname : name = n
    · subst hname
      cases h : requests.toSet[name]? <;> cases hmem : requests.toUnset.contains name <;>
        simp [request?, add, join, h, hmem]
    · have hother : (compare name n == .eq) = false := by simp [hname]
      simp [request?, add, hname, Std.ExtTreeSet.contains_insert, hother]
  · by_cases hname : name = n
    · simp [request?, add, join, hname]
    · simp [request?, add, Std.ExtTreeMap.getElem?_insert, hname]

lemma request?_foldl_add (ds : List (String × Option (Option String))) (requests : Requests)
    (n : String) :
    (ds.foldl (fun collected d => collected.add d.1 d.2) requests).request? n =
      ((ds.filter fun d => d.1 == n).map Prod.snd).foldl join (requests.request? n) := by
  induction ds generalizing requests with
  | nil => rfl
  | cons d ds ih =>
    rw [List.foldl_cons, ih, request?_add]
    by_cases h : d.1 = n <;> simp [h]

lemma mem_toUnset_add {requests : Requests} {name n : String}
    {request : Option (Option String)} :
    n ∈ (requests.add name request).toUnset ↔
      n ∈ requests.toUnset ∨ (name = n ∧ request = some none) := by
  rcases request with _ | _ | value
  · simp [add]
  · simp [add, or_comm]
  · simp [add]

lemma mem_toUnset_foldl_add {ds : List (String × Option (Option String))} {requests : Requests}
    {n : String} :
    n ∈ (ds.foldl (fun collected d => collected.add d.1 d.2) requests).toUnset ↔
      n ∈ requests.toUnset ∨ (n, some none) ∈ ds := by
  induction ds generalizing requests with
  | nil => simp
  | cons d ds ih =>
    rw [List.foldl_cons, ih, mem_toUnset_add, List.mem_cons, or_assoc, Prod.ext_iff,
      eq_comm (a := n), eq_comm (a := some none)]

/-! ### Carrying requests out -/

lemma get?_unsetOne (requests : Requests) (store : Store) (name n : String) :
    (requests.unsetOne store name).get? n =
      if name = n ∧ requests.toSet[n]? = none ∧ store.isBlocked n = false then none
      else store.get? n := by
  unfold unsetOne
  by_cases hname : name = n
  · subst hname
    cases hset : requests.toSet[name]? <;> cases hblocked : store.isBlocked name <;>
      simp [Std.ExtTreeMap.contains_eq_isSome_getElem?, hset, Store.get?_unset]
  · split
    · simp [hname]
    · split <;> simp [hname, Store.get?_unset]

lemma get?_foldl_unsetOne (requests : Requests) (names : List String) (store : Store)
    (n : String) :
    (names.foldl requests.unsetOne store).get? n =
      if n ∈ names ∧ requests.toSet[n]? = none ∧ store.isBlocked n = false then none
      else store.get? n := by
  induction names generalizing store with
  | nil => simp
  | cons name names ih =>
    rw [List.foldl_cons, ih, (requests.respects_unsetOne store name).isBlocked, get?_unsetOne]
    by_cases hfree : requests.toSet[n]? = none ∧ store.isBlocked n = false
    · by_cases hname : name = n
      · simp only [hfree, hname, List.mem_cons]
        simp
      · simp only [hfree, List.mem_cons, eq_comm (a := n)]
        simp [hname]
    · simp only [hfree, and_false, if_false]

/-- A variable that is to be set keeps its value for the time being. -/
lemma get?_unsetAll (requests : Requests) (store : Store) (n : String) :
    (requests.unsetAll store).get? n =
      if requests.request? n = some none ∧ store.isBlocked n = false then none
      else store.get? n := by
  simp only [unsetAll, get?_foldl_unsetOne, Std.ExtTreeSet.mem_toList, request?_eq_absence_iff,
    and_assoc, and_left_comm (a := n ∈ _)]

lemma get?_setOne (store : Store) (name value n : String) :
    (setOne store name value).get? n =
      if name = n ∧ store.isBlocked n = false then some value else store.get? n := by
  unfold setOne
  by_cases hname : name = n
  · subst hname
    cases hblocked : store.isBlocked name <;> simp
  · split <;> simp [hname, Store.get?_set]

/-- Values for other variables do not matter. -/
lemma get?_foldl_setOne_of_not_mem {entries : List (String × String)} {n : String}
    (h : n ∉ entries.map Prod.fst) (store : Store) :
    (entries.foldl (fun s entry => setOne s entry.1 entry.2) store).get? n = store.get? n := by
  induction entries generalizing store with
  | nil => rfl
  | cons entry entries ih =>
    simp only [List.map_cons, List.mem_cons, not_or] at h
    rw [List.foldl_cons, ih h.2, get?_setOne, if_neg fun hn => h.1 hn.1.symm]

lemma get?_foldl_setOne_of_mem {entries : List (String × String)} {n value : String}
    (hdistinct : (entries.map Prod.fst).Nodup) (h : (n, value) ∈ entries) (store : Store) :
    (entries.foldl (fun s entry => setOne s entry.1 entry.2) store).get? n =
      if store.isBlocked n then store.get? n else some value := by
  induction entries generalizing store with
  | nil => cases h
  | cons head entries ih =>
    rw [List.map_cons, List.nodup_cons] at hdistinct
    rw [List.foldl_cons]
    rcases List.mem_cons.mp h with rfl | hmem
    · rw [get?_foldl_setOne_of_not_mem hdistinct.1, get?_setOne]
      cases store.isBlocked n <;> simp
    · have hne : ¬head.1 = n := fun hn =>
        hdistinct.1 (hn ▸ List.mem_map_of_mem (f := Prod.fst) hmem)
      have hget : (setOne store head.1 head.2).get? n = store.get? n := by
        rw [get?_setOne, if_neg fun hn => hne hn.1]
      rw [ih hdistinct.2 hmem, (respects_setOne store _ _).isBlocked, hget]

lemma get?_setAll (requests : Requests) (store : Store) (n : String) :
    (requests.setAll store).get? n =
      if store.isBlocked n then store.get? n else requests.toSet[n]?.or (store.get? n) := by
  cases h : requests.toSet[n]? with
  | none =>
    have habsent : n ∉ requests.toSet.toList.map Prod.fst := by
      rw [Std.ExtTreeMap.map_fst_toList_eq_keys, Std.ExtTreeMap.mem_keys,
        Std.ExtTreeMap.mem_iff_isSome_getElem?, h]
      simp
    rw [setAll, get?_foldl_setOne_of_not_mem habsent, Option.none_or, ite_self]
  | some value =>
    have hmem : (n, value) ∈ requests.toSet.toList :=
      Std.ExtTreeMap.mem_toList_iff_getElem?_eq_some.mpr h
    have hdistinct : (requests.toSet.toList.map Prod.fst).Nodup := by
      rw [Std.ExtTreeMap.map_fst_toList_eq_keys]
      exact Std.ExtTreeMap.nodup_keys
    rw [setAll, get?_foldl_setOne_of_mem hdistinct hmem, Option.some_or]

/-- Of the requests one variable gets its own, unless it is blocked. -/
lemma get?_apply (requests : Requests) (store : Store) (n : String) :
    (requests.apply store).get? n =
      if store.isBlocked n then store.get? n
      else (requests.request? n).getD (store.get? n) := by
  rw [apply, get?_setAll, (requests.respects_unsetAll store).isBlocked, get?_unsetAll]
  cases hblocked : store.isBlocked n with
  | true => simp
  | false =>
    rcases h : requests.request? n with _ | _ | value <;>
      simp [← requests.join_request? n, h]

end Requests

/-- The derivations with what they ask for. -/
lemma requests_eq_foldl (ds : List Derivation) (judge : Derivation → Verdict) :
    requests ds (ds.map judge) = (ds.map fun d => (d.name, (judge d).request)).foldl
      (fun collected d => collected.add d.1 d.2) {} := by
  have hzip : ds.zip (ds.map judge) = ds.map fun d => (d, judge d) := by
    rw [List.zip_eq_zipWith, List.zipWith_map_right, List.zipWith_self]
  rw [requests, hzip, List.foldl_map, List.foldl_map]

/-- The requests for a variable are those of its own derivations. -/
lemma request?_requests (ds : List Derivation) (judge : Derivation → Verdict) (n : String) :
    (requests ds (ds.map judge)).request? n =
      Requests.prevailing ((ds.filter fun d => d.name == n).map fun d => (judge d).request) := by
  have hblank : ({} : Requests).request? n = none := by simp [Requests.request?]
  rw [requests_eq_foldl, Requests.request?_foldl_add, hblank, List.filter_map, List.map_map]
  rfl

/-- A variable is to be unset if one of its derivations asks for that. -/
lemma mem_toUnset_requests {ds : List Derivation} {judge : Derivation → Verdict} {n : String} :
    n ∈ (requests ds (ds.map judge)).toUnset ↔
      ∃ d ∈ ds, d.name = n ∧ (judge d).request = some none := by
  simp [requests_eq_foldl, Requests.mem_toUnset_foldl_add]

end Derivation

namespace Environment

variable {env env' : Environment}

/-- What the derivations of a variable ask for, in their order. -/
def demands (env : Environment) (n : String) : List (Option (Option String)) :=
  (env.derivations.filter fun d => d.name == n).map fun d => (env.verdict d).request

/-- **A pass, one variable at a time.**  A blocked variable stays as it is; any other gets what
prevails among the requests of its derivations, or stays as it is if they ask for nothing. -/
theorem get?_of_refresh (h : env.refresh = .ok env') (n : String) :
    env'.store.get? n =
      if env.store.isBlocked n then env.store.get? n
      else (Derivation.Requests.prevailing (env.demands n)).getD (env.store.get? n) := by
  obtain ⟨-, rfl⟩ := refresh_eq_ok_iff.mp h
  rw [Derivation.Requests.get?_apply, Derivation.request?_requests]
  rfl

end Environment

end SetupWizard
