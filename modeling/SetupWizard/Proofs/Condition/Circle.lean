/-
# Conditions that need each other in a circle

Along a circle of conditions, of which each must have the next one hold, a table follows the
references until it has made all its steps, and there it gives up with the answer no.  On the way
back every condition of the circle needs this answer, and every inverted one turns it round, as long
as the other conditions that it needs hold.  So the answer that arrives depends on the number of
inverted conditions on the way: `holds_iff_odd_inversions`.  If there are none, the answer is no; a
single inverted condition that needs itself answers yes.
-/
import Mathlib.Algebra.Ring.Parity
import SetupWizard.Proofs.Condition.Truth

namespace SetupWizard

namespace ConditionTable

variable {table : ConditionTable} {store : Store} {depth k m : Nat}

/-- A circle of conditions, each of which must have the next one hold.  The conditions are counted
round and round the circle. -/
structure Circle (table : ConditionTable) where
  /-- How many conditions there are until the circle is closed. -/
  length : Nat
  length_pos : 0 < length
  /-- The ids of the conditions. -/
  id : Nat → String
  /-- The conditions themselves. -/
  condition : Nat → Condition
  known : ∀ k, table[id k]? = some (condition k)
  needs_next : ∀ k, id (k + 1) ∈ (condition k).all
  returns : ∀ k, id (k + length) = id k

namespace Circle

variable (circle : table.Circle)

/-- Whether the `k`-th condition of a circle has all that it needs within a depth, apart from the
next condition of the circle. -/
def othersHold (store : Store) (depth k : Nat) : Bool :=
  (circle.condition k).all.all fun id =>
    id == circle.id (k + 1) || table.holdsWithin store depth id

/-- The answer of the `k`-th condition is decided `m` conditions further: until there the conditions
have all else that they need, and that one has not, or it is the last that is asked. -/
def DecidedAt (store : Store) (depth k m : Nat) : Prop :=
  m ≤ depth ∧ (∀ j < m, circle.othersHold store (depth - j) (k + j) = true) ∧
    (m < depth → circle.othersHold store (depth - m) (k + m) = false)

/-- The number of inverted conditions among so many, beginning with the `k`-th. -/
def inversions (k n : Nat) : Nat :=
  (List.range n).countP fun j => (circle.condition (k + j)).negate

/-! ### From one condition to the next -/

lemma inversions_succ (k n : Nat) : circle.inversions k (n + 1) =
    circle.inversions (k + 1) n + if (circle.condition k).negate then 1 else 0 := by
  rw [inversions, List.range_succ_eq_map, List.countP_cons, List.countP_map]
  congr 1
  refine List.countP_congr fun j _ => ?_
  rw [Function.comp_apply, Nat.add_right_comm, Nat.add_assoc]

lemma decidedAt_zero (h : 0 < depth → circle.othersHold store depth k = false) :
    circle.DecidedAt store depth k 0 :=
  ⟨Nat.zero_le _, fun j hj => absurd hj (Nat.not_lt_zero j), h⟩

variable {circle} in
lemma DecidedAt.succ (h : circle.DecidedAt store depth (k + 1) m)
    (hothers : circle.othersHold store (depth + 1) k = true) :
    circle.DecidedAt store (depth + 1) k (m + 1) := by
  obtain ⟨hle, hhold, hfail⟩ := h
  refine ⟨Nat.succ_le_succ hle, fun j hj => ?_, fun hm => ?_⟩
  · cases j with
    | zero => exact hothers
    | succ j =>
      have hj' := hhold j (Nat.lt_of_succ_lt_succ hj)
      rwa [Nat.add_right_comm, Nat.add_assoc, ← Nat.add_sub_add_right depth 1 j] at hj'
  · have hm' := hfail (Nat.lt_of_succ_lt_succ hm)
    rwa [Nat.add_right_comm, Nat.add_assoc, ← Nat.add_sub_add_right depth 1 m] at hm'

/-- A condition of a circle hands the answer of the next one back, turned round if it is inverted,
if it has all else that it needs. -/
lemma holdsWithin_succ_id (store : Store) (depth k : Nat) :
    table.holdsWithin store (depth + 1) (circle.id k) = ((circle.condition k).negate ^^
      (circle.othersHold store depth k && table.holdsWithin store depth (circle.id (k + 1)))) := by
  have hall : (circle.condition k).all ≠ [] := List.ne_nil_of_mem (circle.needs_next k)
  rw [holdsWithin_of_present (circle.known k), Condition.answer_eq_xor_body,
    Condition.body_of_all hall]
  congr 1
  rw [Bool.eq_iff_iff, Bool.and_eq_true, othersHold, List.all_eq_true, List.all_eq_true]
  constructor
  · intro h
    exact ⟨fun id hid => by rw [h id hid, Bool.or_true], h _ (circle.needs_next k)⟩
  · rintro ⟨hothers, hnext⟩ id hid
    by_cases heq : id = circle.id (k + 1)
    · rw [heq, hnext]
    · simpa [heq] using hothers id hid

/-! ### All the way round -/

/-- Without the next condition, or without something else that it needs, a condition of a circle
answers yes if and only if it is inverted. -/
lemma holdsWithin_iff_of_false (h : (circle.othersHold store depth k &&
    table.holdsWithin store depth (circle.id (k + 1))) = false) :
    table.holdsWithin store (depth + 1) (circle.id k) = true ↔ Odd (circle.inversions k 1) := by
  rw [holdsWithin_succ_id, h, Bool.xor_false, inversions_succ]
  cases (circle.condition k).negate <;> simp [inversions]

/-- The answer that arrives at a condition is yes if it has been turned round an odd number of times
on the way from the condition that decides it. -/
lemma exists_decidedAt (store : Store) (depth k : Nat) : ∃ m, circle.DecidedAt store depth k m ∧
    (table.holdsWithin store (depth + 1) (circle.id k) = true ↔
      Odd (circle.inversions k (m + 1))) := by
  induction depth generalizing k with
  | zero =>
    exact ⟨0, circle.decidedAt_zero fun h => absurd h (Nat.lt_irrefl 0),
      circle.holdsWithin_iff_of_false (by simp)⟩
  | succ depth ih =>
    cases hothers : circle.othersHold store (depth + 1) k with
    | false =>
      exact ⟨0, circle.decidedAt_zero fun _ => hothers,
        circle.holdsWithin_iff_of_false (by simp [hothers])⟩
    | true =>
      obtain ⟨m, hm, hodd⟩ := ih (k + 1)
      refine ⟨m + 1, hm.succ hothers, ?_⟩
      rw [holdsWithin_succ_id, hothers, Bool.true_and, inversions_succ]
      cases (circle.condition k).negate with
      | false => simpa using hodd
      | true => simp [Nat.odd_add_one, ← hodd]

/-- **What a condition on a circle answers.**  Among the first 33 conditions, from this one on, there
is one that decides the answer: the first that lacks another condition it needs, or the last of the
33.  The answer is yes if and only if the number of inverted conditions up to there is odd.  So it is
no if none of the 33 is inverted, whatever else they need. -/
theorem holds_iff_odd_inversions (table : ConditionTable) (circle : table.Circle) (store : Store)
    (k : Nat) :
    (∃ m, circle.DecidedAt store 32 k m ∧
        (table.holds (circle.id k) store = true ↔ Odd (circle.inversions k (m + 1)))) ∧
      ((∀ j ≤ 32, (circle.condition (k + j)).negate = false) →
        table.holds (circle.id k) store = false) := by
  obtain ⟨m, hm, hodd⟩ := circle.exists_decidedAt store 32 k
  refine ⟨⟨m, hm, hodd⟩, fun hpositive => ?_⟩
  have hnone : circle.inversions k (m + 1) = 0 := by
    rw [inversions, List.countP_eq_zero]
    intro j hj
    rw [hpositive j (Nat.le_trans (Nat.le_of_lt_succ (List.mem_range.mp hj)) hm.1)]
    simp
  rw [hnone] at hodd
  exact Bool.eq_false_iff.mpr fun h => absurd (hodd.mp h) (by decide)

/-- Two conditions that need each other, and a set variable and an inverted condition besides. -/
def couple : List Condition := [
  .defined "set" "X",
  (Condition.defined "unset" "Y").negated,
  { id := "a", all := ["b", "set"] },
  { id := "b", all := ["unset", "a"] }]

/-- Their circle. -/
def ofCouple : Circle (ofConditions couple) where
  length := 2
  length_pos := by decide
  id k := if k % 2 = 0 then "a" else "b"
  condition k := if k % 2 = 0 then { id := "a", all := ["b", "set"] }
    else { id := "b", all := ["unset", "a"] }
  known k := by
    rcases Nat.mod_two_eq_zero_or_one k with h | h <;> simp only [h] <;> decide +kernel
  needs_next k := by
    rcases Nat.mod_two_eq_zero_or_one k with h | h <;> simp [h, Nat.succ_mod_two_eq_zero_iff]
  returns k := by simp

/-- Neither of them holds, although everything else that they need does. -/
theorem holds_iff_odd_inversions_of_couple :
    (∀ j ≤ 32, (ofCouple.condition (0 + j)).negate = false) ∧
      (ofConditions couple).holds "set" (.ofList [("X", "1")]) = true ∧
      (ofConditions couple).holds "unset" (.ofList [("X", "1")]) = true ∧
      (ofConditions couple).holds "a" (.ofList [("X", "1")]) = false := by
  have hpositive : ∀ j ≤ 32, (ofCouple.condition (0 + j)).negate = false := by decide
  exact ⟨hpositive, by decide +kernel, by decide +kernel,
    (holds_iff_odd_inversions _ ofCouple (.ofList [("X", "1")]) 0).2 hpositive⟩

/-- An inverted condition that needs itself. -/
def invertedLoop : Condition := { id := "loop", all := ["loop"], negate := true }

/-- Its circle. -/
def ofInvertedLoop : Circle (ofConditions [invertedLoop]) where
  length := 1
  length_pos := by decide
  id _ := "loop"
  condition _ := invertedLoop
  known _ := by decide +kernel
  needs_next _ := by decide
  returns _ := rfl

/-- A condition on a circle may hold: this one is turned round 33 times. -/
theorem holds_of_invertedLoop :
    ¬ ∀ (table : ConditionTable) (circle : table.Circle) (store : Store) (k : Nat),
      table.holds (circle.id k) store = false := by
  intro h
  exact absurd (h (ofConditions [invertedLoop]) ofInvertedLoop ∅ 0) (by decide +kernel)

end Circle

end ConditionTable

end SetupWizard
