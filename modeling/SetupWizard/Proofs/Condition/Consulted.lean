/-
# The conditions that an answer consults

To answer one condition of a table, the conditions that it refers to are consulted, those that these
refer to, and so on as far as chains of references are followed.  The answer depends on these
conditions only (`holdsWithin_congr`), so a table in which all of them are present behaves as if
every reference led somewhere.
-/
import Mathlib.Data.List.Induction
import Mathlib.Tactic.Lemma
import SetupWizard.Condition.Table

namespace SetupWizard

/-- The answer to a test depends on the conditions that the test refers to only. -/
lemma Condition.Test.answer_congr {test : Condition.Test} {holds holds' : String → Bool}
    (h : ∀ id ∈ test.references, holds' id = holds id) (value? : Option String) :
    test.answer value? holds' = test.answer value? holds := by
  cases test with
  | all ids =>
    rw [answer, answer, Bool.eq_iff_iff, List.all_eq_true, List.all_eq_true]
    exact forall₂_congr fun id hid => by rw [h id hid]
  | any ids =>
    rw [answer, answer, Bool.eq_iff_iff, List.any_eq_true, List.any_eq_true]
    exact exists_congr fun id => and_congr_right fun hid => by rw [h id hid]
  | _ => rfl

namespace ConditionTable

variable {table table' : ConditionTable} {depth : Nat} {id id' : String}

/-- Answering the condition with the first id consults the one with the second, when chains of
references are followed for fewer than so many steps. -/
inductive Consults (table : ConditionTable) : Nat → String → String → Prop
  | self (depth : Nat) (id : String) : Consults table (depth + 1) id id
  | reference {depth : Nat} {id next id' : String} {c : Condition} : table[id]? = some c →
      next ∈ c.test.references → Consults table depth next id' → Consults table (depth + 1) id id'

/-- **Nothing else is consulted**: tables that agree on the consulted conditions give the same
answer. -/
theorem holdsWithin_congr (h : ∀ id', table.Consults depth id id' → table'[id']? = table[id']?)
    (store : Store) : table'.holdsWithin store depth id = table.holdsWithin store depth id := by
  induction depth generalizing id with
  | zero => rfl
  | succ depth ih =>
    have hid : table'[id]? = table[id]? := h id (.self depth id)
    cases hc : table[id]? with
    | none => rw [holdsWithin_of_absent hc, holdsWithin_of_absent (hid.trans hc)]
    | some c =>
      rw [holdsWithin_of_present hc, holdsWithin_of_present (hid.trans hc), Condition.answer,
        Condition.answer, Condition.Test.answer_congr fun next hnext => ih fun id' hid' => ?_]
      exact h id' (.reference hc hnext hid')

/-- A property of ids that passes from every condition in the table to those that it refers to
holds of all that are consulted. -/
lemma Consults.induction_on_references {P : String → Prop}
    (hstep : ∀ id c, table[id]? = some c → P id → ∀ next ∈ c.test.references, P next)
    (h : table.Consults depth id id') (hid : P id) : P id' := by
  induction h with
  | self depth id => exact hid
  | reference hc hnext _ ih => exact ih (hstep _ _ hc hid _ hnext)

/-- Under an id there is the condition that was put in last. -/
lemma getElem?_ofConditions (cs : List Condition) (id : String) :
    (ofConditions cs)[id]? = cs.reverse.find? fun c => c.id == id := by
  induction cs using List.reverseRecOn with
  | nil => exact Std.ExtTreeMap.getElem?_empty
  | append_singleton cs c ih =>
    have htable : ofConditions (cs ++ [c]) = (ofConditions cs).add c := by
      rw [ofConditions, List.foldl_append]
      rfl
    rw [htable, getElem?_add, ih, List.reverse_append]
    by_cases h : c.id = id <;> simp [h]

lemma mem_ofConditions_iff {cs : List Condition} :
    id ∈ ofConditions cs ↔ id ∈ cs.map Condition.id := by
  rw [Std.ExtTreeMap.mem_iff_isSome_getElem?, getElem?_ofConditions, List.find?_isSome]
  simp

/-- What a table has was put into it, under its own id. -/
lemma mem_of_getElem?_ofConditions {cs : List Condition} {c : Condition}
    (h : (ofConditions cs)[id]? = some c) : c ∈ cs := by
  rw [getElem?_ofConditions] at h
  exact List.mem_reverse.mp (List.mem_of_find?_eq_some h)

end ConditionTable

end SetupWizard
