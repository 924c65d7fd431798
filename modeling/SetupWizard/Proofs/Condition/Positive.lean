/-
# Circles of conditions without negation

Conditions may refer to each other in circles, and then there can be several ways to give them truth
values that agree with what they say.  In a positive table, in which no condition that refers to
others is inverted, there is a least one: a condition is true if its truth can be justified, by a
finite tree with conditions on variables at its leaves.

A table follows chains of references for a limited number of steps, so it finds the justifications
up to a certain height and no others.  For a table with no more conditions than that, these are
enough: `holds_iff_justification`.
-/
import Mathlib.Data.Finset.Lattice.Fold
import Mathlib.Data.Fintype.Basic
import Mathlib.Dynamics.FixedPoints.Basic
import Mathlib.Order.Lattice.Nat
import SetupWizard.Proofs.Condition.Truth

namespace SetupWizard

namespace ConditionTable

variable {table : ConditionTable} {store : Store} {values : String → Bool} {id : String}
  {c : Condition} {depth : Nat}

/-! ### Positive tables and justifications -/

/-- No condition that refers to others is inverted. -/
def Positive (table : ConditionTable) : Prop :=
  ∀ (id : String) (c : Condition), table[id]? = some c → c.all ≠ [] ∨ c.any ≠ [] → c.negate = false

/-- A finite tree that shows why a condition is true.  At its leaves stand conditions that refer to
no others and are true on the store. -/
inductive Justification (table : ConditionTable) (store : Store) : String → Type
  | leaf {id : String} {c : Condition} (known : table[id]? = some c) (hall : c.all = [])
      (hany : c.any = []) (htrue : (c.negate ^^ c.body store fun _ => false) = true) :
      Justification table store id
  | all {id : String} {c : Condition} (known : table[id]? = some c) (hall : c.all ≠ [])
      (members : ∀ i : Fin c.all.length, Justification table store c.all[i]) :
      Justification table store id
  | any {id next : String} {c : Condition} (known : table[id]? = some c) (hall : c.all = [])
      (hnext : next ∈ c.any) (member : Justification table store next) :
      Justification table store id

namespace Justification

/-- The height of a justification: 1 for a leaf, and otherwise one more than that of its highest
part. -/
def height {id : String} : Justification table store id → Nat
  | leaf .. => 1
  | all _ _ members => (Finset.univ.sup fun i => (members i).height) + 1
  | any _ _ _ member => member.height + 1

end Justification

/-- The truth values that conditions get from given truth values of the conditions they refer to. -/
def consequences (table : ConditionTable) (store : Store) (values : String → Bool) :
    String → Bool := fun id =>
  match table[id]? with
  | none => false
  | some c => c.negate ^^ c.body store values

/-- The conditions of a set rest on each other: any of them could hold only if another one did. -/
def RestsOnItself (table : ConditionTable) (store : Store) (ids : Set String) : Prop :=
  ∀ id ∈ ids, ∃ c, table[id]? = some c ∧
    ((c.all ≠ [] ∧ ∃ next ∈ c.all, next ∈ ids ∨ table.holds next store = false) ∨
      (c.all = [] ∧ c.any ≠ [] ∧ ∀ next ∈ c.any, next ∈ ids ∨ table.holds next store = false))

lemma consequences_of_present (h : table[id]? = some c) :
    table.consequences store values id = (c.negate ^^ c.body store values) := by
  simp [consequences, h]

/-- Each further step adds the consequences of what was found before. -/
lemma holdsWithin_succ (table : ConditionTable) (store : Store) (depth : Nat) :
    table.holdsWithin store (depth + 1) =
      table.consequences store (table.holdsWithin store depth) := by
  funext id
  cases hc : table[id]? with
  | none => rw [holdsWithin_of_absent hc, consequences, hc]
  | some c =>
    rw [holdsWithin_of_present hc, Condition.answer_eq_xor_body, consequences_of_present hc]

/-- What makes a condition of a positive table true: the variables, all of the conditions that it
needs, or one of those of which one is enough. -/
lemma Positive.consequences_eq_true_iff (hpos : table.Positive) :
    table.consequences store values id = true ↔ ∃ c, table[id]? = some c ∧
      ((c.all = [] ∧ c.any = [] ∧ (c.negate ^^ c.body store fun _ => false) = true) ∨
        (c.all ≠ [] ∧ ∀ next ∈ c.all, values next = true) ∨
        (c.all = [] ∧ ∃ next ∈ c.any, values next = true)) := by
  cases hc : table[id]? with
  | none => simp [consequences, hc]
  | some c =>
    rw [consequences_of_present hc]
    by_cases hall : c.all = []
    · by_cases hany : c.any = []
      · have hbody : c.body store values = c.body store fun _ => false :=
          Condition.body_of_leaf hall hany
        simp [hall, hany, hbody]
      · rw [hpos id c hc (.inr hany), Bool.false_xor, Condition.body_of_any hall hany,
          List.any_eq_true]
        simp [hall, hany]
    · rw [hpos id c hc (.inl hall), Bool.false_xor, Condition.body_of_all hall, List.all_eq_true]
      simp [hall]

/-- In a positive table more truth has more consequences. -/
lemma Positive.consequences_mono (hpos : table.Positive) :
    Monotone (table.consequences store) := by
  intro values values' h id
  rw [Bool.le_iff_imp, hpos.consequences_eq_true_iff, hpos.consequences_eq_true_iff]
  rintro ⟨c, hc, hleaf | ⟨hall, hvalues⟩ | ⟨hall, next, hnext, hvalue⟩⟩
  · exact ⟨c, hc, .inl hleaf⟩
  · exact ⟨c, hc, .inr (.inl ⟨hall, fun next hnext =>
      Bool.le_iff_imp.mp (h next) (hvalues next hnext)⟩)⟩
  · exact ⟨c, hc, .inr (.inr ⟨hall, next, hnext, Bool.le_iff_imp.mp (h next) hvalue⟩)⟩

/-! ### What is found within a depth -/

namespace Justification

lemma height_all_le_iff {known : table[id]? = some c} {hall : c.all ≠ []}
    {members : ∀ i : Fin c.all.length, Justification table store c.all[i]} :
    (all known hall members).height ≤ depth + 1 ↔ ∀ i, (members i).height ≤ depth := by
  simp [height, Finset.sup_le_iff]

end Justification

/-- Justifications are found up to their height. -/
lemma Positive.holdsWithin_iff_justification (hpos : table.Positive) :
    table.holdsWithin store depth id = true ↔
      ∃ j : Justification table store id, j.height ≤ depth := by
  induction depth generalizing id with
  | zero =>
    constructor
    · exact fun h => absurd h (by simp)
    · rintro ⟨j, hj⟩
      cases j <;> simp [Justification.height] at hj
  | succ depth ih =>
    rw [holdsWithin_succ, hpos.consequences_eq_true_iff]
    constructor
    · rintro ⟨c, hc, ⟨hall, hany, htrue⟩ | ⟨hall, hvalues⟩ | ⟨hall, next, hnext, hvalue⟩⟩
      · exact ⟨.leaf hc hall hany htrue, by simp [Justification.height]⟩
      · choose members hmembers using fun i : Fin c.all.length =>
          ih.mp (hvalues c.all[i] (List.getElem_mem i.isLt))
        exact ⟨.all hc hall members, Justification.height_all_le_iff.mpr hmembers⟩
      · obtain ⟨j, hj⟩ := ih.mp hvalue
        exact ⟨.any hc hall hnext j, Nat.succ_le_succ hj⟩
    · rintro ⟨j, hj⟩
      cases j with
      | @leaf _ c hc hall hany htrue => exact ⟨c, hc, .inl ⟨hall, hany, htrue⟩⟩
      | @all _ c hc hall members =>
        refine ⟨c, hc, .inr (.inl ⟨hall, fun next hnext => ?_⟩)⟩
        obtain ⟨i, hi, rfl⟩ := List.getElem_of_mem hnext
        exact ih.mpr ⟨members ⟨i, hi⟩, Justification.height_all_le_iff.mp hj ⟨i, hi⟩⟩
      | @any _ next c hc hall hnext j =>
        exact ⟨c, hc, .inr (.inr ⟨hall, next, hnext, ih.mpr ⟨j, Nat.le_of_succ_le_succ hj⟩⟩)⟩

/-- In a positive table nothing is lost when references are followed further. -/
lemma Positive.holdsWithin_mono (hpos : table.Positive) (store : Store) :
    Monotone (table.holdsWithin store) := by
  intro depth depth' hle id
  rw [Bool.le_iff_imp, hpos.holdsWithin_iff_justification, hpos.holdsWithin_iff_justification]
  exact fun ⟨j, hj⟩ => ⟨j, hj.trans hle⟩

/-- Conditions that rest on each other are not found at any depth up to the limit. -/
lemma Positive.holdsWithin_of_restsOnItself (hpos : table.Positive) {ids : Set String}
    (hids : table.RestsOnItself store ids) (hdepth : depth ≤ maxSteps + 1) (hid : id ∈ ids) :
    table.holdsWithin store depth id = false := by
  induction depth generalizing id with
  | zero => rfl
  | succ depth ih =>
    have hfalse (next : String) (h : next ∈ ids ∨ table.holds next store = false) :
        ¬ table.holdsWithin store depth next = true := by
      rcases h with hnext | hnext
      · exact Bool.eq_false_iff.mp (ih (by omega) hnext)
      · intro hvalue
        have hle := hpos.holdsWithin_mono store (Nat.le_of_succ_le hdepth) next
        exact Bool.eq_false_iff.mp hnext (Bool.le_iff_imp.mp hle hvalue)
    rw [holdsWithin_succ, Bool.eq_false_iff]
    intro htrue
    obtain ⟨c, hc, hc'⟩ := hpos.consequences_eq_true_iff.mp htrue
    obtain ⟨c', hknown, hrests⟩ := hids id hid
    obtain rfl := Option.some.inj (hc.symm.trans hknown)
    rcases hrests with ⟨hall, next, hnext, h⟩ | ⟨hall, hany, h⟩
    · rcases hc' with ⟨hnil, -⟩ | ⟨-, hvalues⟩ | ⟨hnil, -⟩
      · exact hall hnil
      · exact hfalse next h (hvalues next hnext)
      · exact hall hnil
    · rcases hc' with ⟨-, hnil, -⟩ | ⟨hne, -⟩ | ⟨-, next, hnext, hvalue⟩
      · exact hany hnil
      · exact hne hall
      · exact hfalse next (h next hnext) hvalue

/-! ### Small tables -/

/-- The conditions of the table that are found to hold within a depth. -/
def foundWithin (table : ConditionTable) (store : Store) (depth : Nat) : Finset String :=
  table.keys.toFinset.filter fun id => table.holdsWithin store depth id

lemma mem_foundWithin : id ∈ table.foundWithin store depth ↔
    table.holdsWithin store depth id = true := by
  rw [foundWithin, Finset.mem_filter, List.mem_toFinset, and_iff_right_iff_imp]
  intro h
  rw [Std.ExtTreeMap.mem_keys, Std.ExtTreeMap.mem_iff_isSome_getElem?]
  by_contra hnone
  rw [holdsWithin_of_absent (by simpa using hnone)] at h
  exact absurd h (by simp)

lemma holdsWithin_eq_iff {depth' : Nat} :
    table.holdsWithin store depth = table.holdsWithin store depth' ↔
      table.foundWithin store depth = table.foundWithin store depth' := by
  constructor
  · intro h
    rw [foundWithin, foundWithin, h]
  · intro h
    funext id
    rw [Bool.eq_iff_iff, ← mem_foundWithin, ← mem_foundWithin, h]

lemma card_foundWithin_le (table : ConditionTable) (store : Store) (depth : Nat) :
    (table.foundWithin store depth).card ≤ table.size :=
  calc (table.foundWithin store depth).card
    _ ≤ table.keys.toFinset.card := Finset.card_filter_le _ _
    _ ≤ table.keys.length := List.toFinset_card_le _
    _ = table.size := Std.ExtTreeMap.length_keys

/-- Until nothing more is found, each step finds a condition that was not found before, so there are
no more such steps than conditions. -/
lemma Positive.holdsWithin_of_size_le (hpos : table.Positive) (h : table.size ≤ depth) :
    table.holdsWithin store depth = table.holdsWithin store table.size := by
  have hmono : Monotone (table.foundWithin store) := fun depth depth' hle id hid =>
    mem_foundWithin.mpr
      (Bool.le_iff_imp.mp (hpos.holdsWithin_mono store hle id) (mem_foundWithin.mp hid))
  have hsame {depth depth' : Nat} (hle : depth ≤ depth')
      (hcard : (table.foundWithin store depth).card = (table.foundWithin store depth').card) :
      table.holdsWithin store depth = table.holdsWithin store depth' :=
    holdsWithin_eq_iff.mpr (Finset.eq_of_subset_of_card_le (hmono hle) hcard.ge)
  -- a step that finds nothing is followed by steps that find nothing
  have hstep (depth : Nat)
      (hcard : (table.foundWithin store depth).card = (table.foundWithin store (depth + 1)).card) :
      (table.foundWithin store (depth + 1)).card = (table.foundWithin store (depth + 2)).card := by
    have hnext : table.holdsWithin store (depth + 1) = table.holdsWithin store (depth + 2) := by
      rw [holdsWithin_succ, hsame (Nat.le_succ depth) hcard, ← holdsWithin_succ]
    rw [holdsWithin_eq_iff.mp hnext]
  have hcard : (table.foundWithin store depth).card = (table.foundWithin store table.size).card :=
    Nat.stabilises_of_monotone (fun _ _ hle => Finset.card_le_card (hmono hle))
      (table.card_foundWithin_le store) hstep h
  exact (hsame h hcard.symm).symm

/-- What is found lies below all truth values that agree with what the conditions say. -/
lemma Positive.holdsWithin_le_of_isFixedPt (hpos : table.Positive)
    (h : Function.IsFixedPt (table.consequences store) values) (depth : Nat) :
    table.holdsWithin store depth ≤ values := by
  induction depth with
  | zero => exact fun id => Bool.false_le _
  | succ depth ih =>
    rw [holdsWithin_succ, ← h.eq]
    exact hpos.consequences_mono ih

/-! ### Main result -/

/-- **A positive table answers with the least truth values.**  A condition of a positive table holds
if and only if its truth has a justification of height at most 33, so no condition holds because of
conditions that rest on each other.  If the table has at most 33 conditions, a justification of any
height is enough, and the answers are the least truth values that agree with what the conditions
say. -/
theorem holds_iff_justification (table : ConditionTable) (hpos : table.Positive) (store : Store) :
    (∀ id, table.holds id store = true ↔
        ∃ j : Justification table store id, j.height ≤ 33) ∧
      (∀ ids, table.RestsOnItself store ids → ∀ id ∈ ids, table.holds id store = false) ∧
      (table.size ≤ 33 →
        (∀ id, table.holds id store = true ↔ Nonempty (Justification table store id)) ∧
        IsLeast (Function.fixedPoints (table.consequences store))
          fun id => table.holds id store) := by
  refine ⟨fun id => hpos.holdsWithin_iff_justification, fun ids hids id hid =>
    hpos.holdsWithin_of_restsOnItself hids le_rfl hid, fun hsize => ?_⟩
  have hstable (depth : Nat) (h : 33 ≤ depth) :
      table.holdsWithin store depth = table.holdsWithin store 33 :=
    (hpos.holdsWithin_of_size_le (hsize.trans h)).trans (hpos.holdsWithin_of_size_le hsize).symm
  refine ⟨fun id => ?_, ?_, fun values hvalues => hpos.holdsWithin_le_of_isFixedPt hvalues 33⟩
  · constructor
    · exact fun h => (hpos.holdsWithin_iff_justification.mp h).nonempty
    · rintro ⟨j⟩
      have hfound : table.holdsWithin store (max j.height 33) id = true :=
        hpos.holdsWithin_iff_justification.mpr ⟨j, le_max_left _ _⟩
      rw [hstable _ (le_max_right _ _)] at hfound
      exact hfound
  · exact (holdsWithin_succ table store 33).symm.trans (hstable 34 (by decide))

/-- Circles of conditions: `a`, `b` and `c` need each other, and `a` can do without; `d` and `e`
need each other and cannot. -/
def circles : List Condition := [
  .defined "set" "X",
  (Condition.defined "unset" "Y").negated,
  { id := "a", any := ["b", "set"] },
  { id := "b", all := ["a", "c", "unset"] },
  { id := "c", any := ["c", "a"] },
  { id := "d", all := ["a", "e"] },
  { id := "e", any := ["d"] }]

/-- The circle with a way out is true and the one without is not. -/
theorem holds_iff_justification_of_circles :
    (ofConditions circles).Positive ∧
      (ofConditions circles).RestsOnItself (.ofList [("X", "1")]) {"d", "e"} ∧
      (ofConditions circles).size ≤ 33 ∧
      (∃ j : Justification (ofConditions circles) (.ofList [("X", "1")]) "b", j.height ≤ 33) ∧
      (ofConditions circles).holds "d" (.ofList [("X", "1")]) = false ∧
      IsLeast (Function.fixedPoints ((ofConditions circles).consequences (.ofList [("X", "1")])))
        fun id => (ofConditions circles).holds id (.ofList [("X", "1")]) := by
  have hpos : (ofConditions circles).Positive := by
    have hmembers : ∀ c ∈ circles, c.all ≠ [] ∨ c.any ≠ [] → c.negate = false := by decide
    exact fun id c hc => hmembers c (mem_of_getElem?_ofConditions hc)
  have hrests : (ofConditions circles).RestsOnItself (.ofList [("X", "1")]) {"d", "e"} := by
    rintro id (rfl | rfl)
    · exact ⟨{ id := "d", all := ["a", "e"] }, by decide +kernel, .inl (by simp)⟩
    · exact ⟨{ id := "e", any := ["d"] }, by decide +kernel, .inr (by simp)⟩
  have hsize : (ofConditions circles).size ≤ 33 := by decide +kernel
  obtain ⟨hjustified, hfalse, hleast⟩ :=
    holds_iff_justification (ofConditions circles) hpos (.ofList [("X", "1")])
  exact ⟨hpos, hrests, hsize, (hjustified "b").mp (by decide +kernel),
    hfalse _ hrests "d" (.inl rfl), (hleast hsize).2⟩

end ConditionTable

end SetupWizard
