/-
# Step numbers have no gaps

The step number of a panel counts the visible panels up to its own position.  Seen as a question
about positions, this is the count of Mathlib (`visibleCount_take`): it goes up by one at each
visible panel and stays at all others.  So no two steps share a number, and the numbers from one to
the number of steps are all given away (`stepNumber_bijOn`).
-/
import Mathlib.Data.Nat.Nth
import Mathlib.Order.Interval.Finset.Nat
import SetupWizard.Panel

namespace SetupWizard.Panel

open Finset

variable {panels : List Panel} {i j : Nat}

/-- There is a visible panel at a position. -/
def VisibleAt (panels : List Panel) (i : Nat) : Prop :=
  ∃ panel, panels[i]? = some panel ∧ panel.visible = true

lemma visibleAt_iff : VisibleAt panels i ↔ (panels[i]?.any Panel.visible) = true := by
  rw [Option.any_eq_true]
  rfl

instance : DecidablePred (VisibleAt panels) := fun _ => decidable_of_iff' _ visibleAt_iff

lemma VisibleAt.lt_length (h : VisibleAt panels i) : i < panels.length := by
  obtain ⟨panel, hpanel, -⟩ := h
  exact (List.getElem?_eq_some_iff.mp hpanel).1

/-! ### Counting positions -/

/-- The visible panels in front of a position are counted by their positions. -/
lemma visibleCount_take (panels : List Panel) (k : Nat) :
    visibleCount (panels.take k) = Nat.count (VisibleAt panels) k := by
  induction k with
  | zero => simp
  | succ k ih =>
    rw [List.take_add_one, visibleCount_append, ih, Nat.count_succ]
    cases hpanel : panels[k]? with
    | none => simp [visibleAt_iff, hpanel]
    | some panel => simp [visibleAt_iff, hpanel, visibleCount_cons]

lemma visibleCount_eq_count (panels : List Panel) :
    visibleCount panels = Nat.count (VisibleAt panels) panels.length := by
  rw [← visibleCount_take, List.take_length]

lemma stepNumber?_of_visibleAt (h : VisibleAt panels i) :
    stepNumber? panels i = some (Nat.count (VisibleAt panels) i + 1) := by
  obtain ⟨panel, hpanel, hvisible⟩ := h
  rw [stepNumber?, hpanel, ← Nat.count_succ_eq_succ_count (p := VisibleAt panels)
    ⟨panel, hpanel, hvisible⟩, ← visibleCount_take]
  exact if_pos hvisible

lemma stepNumber?_of_not_visibleAt (h : ¬ VisibleAt panels i) : stepNumber? panels i = none := by
  rw [stepNumber?]
  cases hpanel : panels[i]? with
  | none => rfl
  | some panel => exact if_neg fun hvisible => h ⟨panel, hpanel, hvisible⟩

lemma stepNumber?_eq_some_iff {n : Nat} : stepNumber? panels i = some n ↔
    VisibleAt panels i ∧ Nat.count (VisibleAt panels) i + 1 = n := by
  by_cases h : VisibleAt panels i
  · simp [stepNumber?_of_visibleAt h, h]
  · simp [stepNumber?_of_not_visibleAt h, h]

/-- The visible panels up to a position and those behind it up to another. -/
lemma card_add_card_eq_count (hij : i ≤ j) :
    (#{k ∈ Iic i | VisibleAt panels k} + #{k ∈ Ioc i j | VisibleAt panels k}) =
      Nat.count (VisibleAt panels) (j + 1) := by
  have hsplit : range (j + 1) = Iic i ∪ Ioc i j := by
    ext k
    simp only [mem_range, mem_union, mem_Iic, mem_Ioc]
    omega
  have hdisjoint : Disjoint (Iic i) (Ioc i j) := by
    rw [disjoint_left]
    intro k hk hk'
    simp only [mem_Iic, mem_Ioc] at hk hk'
    omega
  rw [Nat.count_eq_card_filter_range, hsplit, filter_union,
    card_union_of_disjoint (disjoint_filter_filter hdisjoint)]

/-! ### Main result -/

/-- Each number up to the number of visible panels is the step number of one of them. -/
lemma exists_stepNumber? {n : Nat} (hn : n < visibleCount panels) :
    ∃ i, VisibleAt panels i ∧ stepNumber? panels i = some (n + 1) := by
  rw [visibleCount_eq_count] at hn
  have hcard (hfinite : (Set.ofPred (VisibleAt panels)).Finite) : n < hfinite.toFinset.card :=
    hn.trans_le (Nat.count_le_card hfinite panels.length)
  have hvisible : VisibleAt panels (Nat.nth (VisibleAt panels) n) := Nat.nth_mem n hcard
  refine ⟨_, hvisible, ?_⟩
  rw [stepNumber?_of_visibleAt hvisible, Nat.count_nth hcard]

/-- **Step numbers have no gaps.**  The visible panels and the numbers from one to the number of
visible panels correspond to each other one to one, and later panels have greater numbers; where
there is no panel or a hidden one, there is no number.  What the number of a panel has above the
number of the visible panels up to an earlier position is the number of the visible panels behind
that position, the panel itself included. -/
theorem stepNumber_bijOn (panels : List Panel) :
    Set.BijOn (stepNumber? panels) {i | VisibleAt panels i}
        (some '' Set.Icc 1 (visibleCount panels)) ∧
      (∀ i j m n, i < j → stepNumber? panels i = some m → stepNumber? panels j = some n → m < n) ∧
      (∀ i, stepNumber? panels i = none ↔ ¬ VisibleAt panels i) ∧
      ∀ i j, i < j → VisibleAt panels j → ∃ n, stepNumber? panels j = some n ∧
        n = #{k ∈ Iic i | VisibleAt panels k} + #{k ∈ Ioc i j | VisibleAt panels k} := by
  refine ⟨⟨?mapsTo, ?injOn, ?surjOn⟩, ?increasing, ?absent, ?difference⟩
  case mapsTo =>
    intro i hi
    refine ⟨_, ⟨Nat.succ_pos _, ?_⟩, (stepNumber?_of_visibleAt hi).symm⟩
    rw [visibleCount_eq_count]
    exact Nat.count_strict_mono hi hi.lt_length
  case injOn =>
    intro i hi j hj heq
    rw [stepNumber?_of_visibleAt hi, stepNumber?_of_visibleAt hj, Option.some.injEq] at heq
    exact Nat.count_injective hi hj (Nat.succ.inj heq)
  case surjOn =>
    rintro _ ⟨n, ⟨hpos, hle⟩, rfl⟩
    obtain ⟨m, rfl⟩ := Nat.exists_eq_add_of_le' hpos
    exact exists_stepNumber? hle
  case increasing =>
    intro i j m n hij hm hn
    obtain ⟨hi, rfl⟩ := stepNumber?_eq_some_iff.mp hm
    obtain ⟨-, rfl⟩ := stepNumber?_eq_some_iff.mp hn
    exact Nat.succ_lt_succ (Nat.count_strict_mono hi hij)
  case absent =>
    intro i
    refine ⟨fun hnone hi => ?_, stepNumber?_of_not_visibleAt⟩
    rw [stepNumber?_of_visibleAt hi] at hnone
    cases hnone
  case difference =>
    intro i j hij hj
    refine ⟨_, stepNumber?_of_visibleAt hj, ?_⟩
    rw [card_add_card_eq_count hij.le, Nat.count_succ_eq_succ_count hj]

/-- Panels of which the first and the third are hidden. -/
def partlyHidden : List Panel :=
  [{ id := "check", className := "Text", visible := false },
    { id := "welcome", className := "Text" },
    { id := "license", className := "Text", visible := false },
    { id := "options", className := "Input" },
    { id := "finish", className := "Text" }]

/-- The last panel is the third step: one step is at the second position or before, and two are
behind it. -/
theorem stepNumber_bijOn_partlyHidden :
    VisibleAt partlyHidden 4 ∧ #{k ∈ Iic 1 | VisibleAt partlyHidden k} = 1 ∧
      stepNumber? partlyHidden 4 = some 3 ∧ #{k ∈ Ioc 1 4 | VisibleAt partlyHidden k} = 2 ∧
      (∃ i, VisibleAt partlyHidden i ∧ stepNumber? partlyHidden i = some 2) ∧
      stepNumber? partlyHidden 2 = none ∧ stepNumber? partlyHidden 5 = none := by
  obtain ⟨hbij, -, habsent, hdifference⟩ := stepNumber_bijOn partlyHidden
  have hlast : VisibleAt partlyHidden 4 := by decide
  have hbefore : #{k ∈ Iic 1 | VisibleAt partlyHidden k} = 1 := by decide
  have hbehind : #{k ∈ Ioc 1 4 | VisibleAt partlyHidden k} = 2 := by decide
  obtain ⟨n, hn, rfl⟩ := hdifference 1 4 (by decide) hlast
  obtain ⟨i, hi, hsecond⟩ := hbij.surjOn ⟨2, by decide, rfl⟩
  rw [hbefore, hbehind] at hn
  exact ⟨hlast, hbefore, hn, hbehind, ⟨i, hi, hsecond⟩, (habsent 2).mpr (by decide),
    (habsent 5).mpr (by decide)⟩

end SetupWizard.Panel
