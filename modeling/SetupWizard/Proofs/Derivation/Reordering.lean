/-
# The order of unrelated derivations

A pass judges every derivation on the store as it was before, and collects the requests by variable.
So only the order among the derivations of one variable matters to it.  When a list of derivations
is put into another order in which those of each variable keep theirs, a pass over it succeeds if it
did before, leaves the same variables behind, and marks the same derivations
(`refresh_of_reordering`).  Where a pass fails, it may well name another derivation: the first that
fails need not be the same.
-/
import Mathlib.Data.List.Sort
import Mathlib.Logic.Equiv.Defs
import SetupWizard.Proofs.Derivation.Requests

namespace SetupWizard.Derivation

variable {conditions : Authority} {evaluate : Evaluator} {store store' : Store}
  {ds ds' : List Derivation} {n : String}

/-- A list of derivations in another order, in which those of each variable keep theirs. -/
structure Reordering (ds ds' : List Derivation) where
  /-- Where the derivation at a position has gone. -/
  place : Fin ds.length ≃ Fin ds'.length
  getElem_place (i : Fin ds.length) : ds'[place i] = ds[i]
  keepsOrder {i j : Fin ds.length} : i < j → ds[i].name = ds[j].name → place i < place j

namespace Reordering

/-- The positions of the derivations of a variable, in order. -/
def positions (ds : List Derivation) (n : String) : List (Fin ds.length) :=
  (List.finRange ds.length).filter fun i => ds[i].name == n

lemma sorted_positions (ds : List Derivation) (n : String) :
    (positions ds n).Pairwise (· < ·) :=
  (List.pairwise_lt_finRange ds.length).sublist List.filter_sublist

lemma mem_positions {i : Fin ds.length} : i ∈ positions ds n ↔ ds[i].name = n := by
  simp [positions]

lemma map_positions (ds : List Derivation) (n : String) :
    (positions ds n).map (fun i => ds[i]) = ds.filter fun d => d.name == n := by
  have hget : (List.finRange ds.length).map (fun i => ds[i]) = ds := List.map_getElem_finRange ds
  conv_rhs => rw [← hget, List.filter_map]
  rfl

variable (r : Reordering ds ds')
include r

/-- The derivations of a variable go to the positions of the derivations of this variable, in the
same order. -/
lemma map_place_positions (n : String) : (positions ds n).map r.place = positions ds' n := by
  have hsorted : ((positions ds n).map r.place).Pairwise (· < ·) := by
    rw [List.pairwise_map]
    refine (sorted_positions ds n).imp_of_mem fun hi hj hlt => r.keepsOrder hlt ?_
    rw [mem_positions.mp hi, mem_positions.mp hj]
  refine hsorted.eq_of_mem_iff (sorted_positions ds' n) fun j => ?_
  obtain ⟨i, rfl⟩ := r.place.surjective j
  rw [List.mem_map_of_injective r.place.injective, mem_positions, mem_positions, r.getElem_place]

/-- The derivations of a variable are the same ones in the same order. -/
lemma filter_name (n : String) :
    (ds'.filter fun d => d.name == n) = ds.filter fun d => d.name == n := by
  rw [← map_positions, ← map_positions, ← r.map_place_positions, List.map_map]
  exact List.map_congr_left fun i _ => r.getElem_place i

/-- No derivation is lost, and none is added. -/
lemma mem_iff {d : Derivation} : d ∈ ds' ↔ d ∈ ds := by
  have hfilter := r.filter_name d.name
  have hmem {l : List Derivation} : d ∈ l ↔ d ∈ l.filter fun d' => d'.name == d.name := by simp
  rw [hmem, hfilter, ← hmem]

/-- What the derivations ask for together does not depend on their order. -/
lemma requests_eq (judge : Derivation → Verdict) :
    requests ds' (ds'.map judge) = requests ds (ds.map judge) := by
  ext n
  · rw [← Requests.join_request?, ← Requests.join_request?, request?_requests, request?_requests,
      r.filter_name]
  · simp only [mem_toUnset_requests, r.mem_iff]

end Reordering

lemma exists_refresh_eq_ok_iff : (∃ outcome, refresh conditions evaluate ds store = .ok outcome) ↔
    ∀ d ∈ ds, (d.judge conditions evaluate store).isFailed = false := by
  simp only [refresh_eq_ok_iff]
  constructor
  · rintro ⟨-, hgoes, -⟩
    exact hgoes
  · exact fun hgoes => ⟨_, hgoes, rfl⟩

/-- **The order of unrelated derivations does not matter.**  A pass over the derivations in another
order, in which those of each variable keep theirs, succeeds if and only if the pass over them as
they were does.  If so, the two passes leave the same store, and each derivation is the same after
both, its mark included. -/
theorem refresh_of_reordering (r : Reordering ds ds') (conditions : Authority)
    (evaluate : Evaluator) (store : Store) :
    ((∃ outcome, refresh conditions evaluate ds' store = .ok outcome) ↔
      ∃ outcome, refresh conditions evaluate ds store = .ok outcome) ∧
    ∀ after after' s s', refresh conditions evaluate ds store = .ok (after, s) →
      refresh conditions evaluate ds' store = .ok (after', s') →
        s' = s ∧ ∀ i : Fin ds.length, ∃ d, after[(i : Nat)]? = some d ∧
          after'[(r.place i : Nat)]? = some d := by
  constructor
  · simp only [exists_refresh_eq_ok_iff, r.mem_iff]
  · intro after after' s s' h h'
    obtain ⟨-, houtcome⟩ := refresh_eq_ok_iff.mp h
    obtain ⟨-, houtcome'⟩ := refresh_eq_ok_iff.mp h'
    obtain ⟨rfl, rfl⟩ := Prod.mk.inj houtcome
    obtain ⟨rfl, rfl⟩ := Prod.mk.inj houtcome'
    refine ⟨by rw [r.requests_eq], fun i => ?_⟩
    refine ⟨ds[i].after (ds[i].judge conditions evaluate store), ?_, ?_⟩
    · rw [List.getElem?_map, List.getElem?_eq_getElem i.isLt]
      rfl
    · rw [List.getElem?_map, List.getElem?_eq_getElem (r.place i).isLt, ← r.getElem_place]
      rfl

/-- Two rules for `A`, of which the later one prevails, and one for `B` that is computed from `A` as
it was before: it may come behind both or in front of them. -/
theorem refresh_of_promotedRule :
    let ds : List Derivation :=
      [{ name := "A", expression := "1" },
        { name := "A", expression := "2", oneShot := true },
        { name := "B", expression := "A", condition? := some "A" }]
    let ds' : List Derivation :=
      [{ name := "B", expression := "A", condition? := some "A" },
        { name := "A", expression := "1" },
        { name := "A", expression := "2", oneShot := true }]
    let conditions : Authority := fun id store => store.contains id
    let evaluate : Evaluator := fun expression store =>
      .ok (some ((store.get? expression).getD expression))
    let store : Store := .ofList [("A", "0")]
    let computed (d : Derivation) : Derivation := { d with evaluated := true }
    let s := (store.set "A" "2").set "B" "0"
    let s' := (store.set "B" "0").set "A" "2"
    refresh conditions evaluate ds store = .ok (ds.map computed, s) ∧
      refresh conditions evaluate ds' store = .ok (ds'.map computed, s') ∧ s' = s ∧
        ∃ d, (ds.map computed)[2]? = some d ∧ (ds'.map computed)[0]? = some d := by
  intro ds ds' conditions evaluate store computed s s'
  -- The last of the three comes to the front.
  let place : Fin 3 ≃ Fin 3 := ⟨(· + 1), (· - 1), fun i => by grind, fun i => by grind⟩
  let r : Reordering ds ds' := ⟨place, by decide, by decide⟩
  have hrefresh : refresh conditions evaluate ds store = .ok (ds.map computed, s) := by
    decide +kernel
  obtain ⟨-, hagree⟩ := refresh_of_reordering r conditions evaluate store
  have hrefresh' : refresh conditions evaluate ds' store = .ok (ds'.map computed, s') := by
    decide +kernel
  obtain ⟨hstore, hmarks⟩ := hagree _ _ _ _ hrefresh hrefresh'
  exact ⟨hrefresh, hrefresh', hstore, hmarks ⟨2, by decide⟩⟩

end SetupWizard.Derivation
