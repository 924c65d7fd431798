/-
# Going forward to the end

A move forward that succeeds leads to a panel behind the current one, so that going forward comes
to an end: of the moves forward that are made one after the other at most as many succeed as there
are panels, until one does not (`exists_halts`).  A limit that leaves room for that one makes no
difference (`Halts.advance`).
-/
import Mathlib.Logic.Function.Iterate
import SetupWizard.Proofs.Session

namespace SetupWizard.Wizard

open Attempt

variable {σ : Type} {T : Crew σ} {w : Wizard σ} {validate : Bool} {k : Nat}

/-- The wizard after so many moves forward, whatever came of them. -/
def afterMoves (T : Crew σ) (validate : Bool) (w : Wizard σ) (k : Nat) : Wizard σ :=
  (fun v => (next T validate v).state)^[k] w

lemma afterMoves_succ (T : Crew σ) (validate : Bool) (w : Wizard σ) (k : Nat) :
    afterMoves T validate w (k + 1) = afterMoves T validate (next T validate w).state k :=
  Function.iterate_succ_apply _ k w

lemma afterMoves_succ' (T : Crew σ) (validate : Bool) (w : Wizard σ) (k : Nat) :
    afterMoves T validate w (k + 1) = (next T validate (afterMoves T validate w k)).state :=
  Function.iterate_succ_apply' _ k w

/-- The first so many moves forward succeed, and the one after them does not. -/
structure Halts (T : Crew σ) (validate : Bool) (w : Wizard σ) (k : Nat) : Prop where
  moved : ∀ j < k, (next T validate (afterMoves T validate w j)).result = .ok true
  halted : (next T validate (afterMoves T validate w k)).result ≠ .ok true

lemma halts_zero (h : (next T validate w).result ≠ .ok true) : Halts T validate w 0 :=
  ⟨fun _ hj => absurd hj (Nat.not_lt_zero _), h⟩

lemma halts_succ : Halts T validate w (k + 1) ↔
    (next T validate w).result = .ok true ∧ Halts T validate (next T validate w).state k := by
  constructor
  · rintro ⟨hmoved, hhalted⟩
    refine ⟨hmoved 0 (Nat.succ_pos k), fun j hj => ?_, ?_⟩
    · rw [← afterMoves_succ]
      exact hmoved (j + 1) (Nat.succ_lt_succ hj)
    · rwa [← afterMoves_succ]
  · rintro ⟨hfirst, hmoved, hhalted⟩
    refine ⟨fun j hj => ?_, ?_⟩
    · cases j with
      | zero => exact hfirst
      | succ j =>
        rw [afterMoves_succ]
        exact hmoved j (Nat.lt_of_succ_lt_succ hj)
    · rwa [afterMoves_succ]

/-! ### The panels ahead -/

/-- The number of panels up to the current one. -/
def depth (w : Wizard σ) : Nat := w.index?.elim 0 (· + 1)

lemma depth_le_size (hw : w.InBounds) : w.depth ≤ w.size := by
  unfold depth
  cases hi : w.index? with
  | none => exact Nat.zero_le w.size
  | some i => exact hw i hi

/-- What a move forward that succeeds does to the place. -/
lemma place_of_next (hw : w.InBounds) (h : (next T validate w).result = .ok true) :
    let w' := (next T validate w).state
    w'.InBounds ∧ w'.size = w.size ∧ ∃ i ∈ w.ahead, w'.index? = some i := by
  have hplaced := placed T hw (.move (.next validate))
  obtain ⟨i, htarget, hi⟩ := exists_target T hw (m := .next validate) h
  rw [state_perform_move, htarget] at hplaced
  refine ⟨hplaced.inBounds hw, hplaced.size, i, hi, ?_⟩
  cases hplaced with
  | arrived hnew hplace harrive => exact congrArg Wizard.index? harrive

lemma depth_lt_of_next (hw : w.InBounds) (h : (next T validate w).result = .ok true) :
    w.depth < (next T validate w).state.depth := by
  obtain ⟨-, -, i, hi, hindex⟩ := place_of_next hw h
  rw [depth, depth, hindex]
  cases hc : w.index? with
  | none => exact Nat.succ_pos i
  | some c => exact Nat.succ_lt_succ (lt_of_mem_ahead hc hi)

/-! ### Moves to the end -/

/-- As long as no more panels are left than moves may be made, the moves come to an end. -/
lemma exists_halts_of_le (hw : w.InBounds) {n : Nat} (hn : w.size ≤ w.depth + n) :
    ∃ k ≤ n, Halts T validate w k := by
  induction n generalizing w with
  | zero =>
    -- All panels lie in front of the current one, so there is none to move to.
    refine ⟨0, Nat.le_refl 0, halts_zero fun h => ?_⟩
    obtain ⟨hw', hsize, -⟩ := place_of_next hw h
    have hdepth := depth_lt_of_next hw h
    have hle := depth_le_size hw'
    omega
  | succ n ih =>
    by_cases h : (next T validate w).result = .ok true
    · obtain ⟨hw', hsize, -⟩ := place_of_next hw h
      have hdepth := depth_lt_of_next hw h
      obtain ⟨k, hk, hhalts⟩ := ih hw' (by omega)
      exact ⟨k + 1, Nat.succ_le_succ hk, halts_succ.mpr ⟨h, hhalts⟩⟩
    · exact ⟨0, Nat.zero_le (n + 1), halts_zero h⟩

/-- **Going forward comes to an end**, after at most as many moves as there are panels. -/
theorem exists_halts (T : Crew σ) (validate : Bool) (hw : w.InBounds) :
    ∃ k ≤ w.size, Halts T validate w k :=
  exists_halts_of_le hw (Nat.le_add_left w.size w.depth)

lemma Halts.inBounds (h : Halts T validate w k) (hw : w.InBounds) {j : Nat} (hj : j ≤ k) :
    (afterMoves T validate w j).InBounds := by
  induction j with
  | zero => exact hw
  | succ j ih =>
    rw [afterMoves_succ']
    exact (place_of_next (ih (Nat.le_of_succ_le hj)) (h.moved j hj)).1

/-- Each of the moves increases the position of the current panel. -/
lemma Halts.index (h : Halts T validate w k) (hw : w.InBounds) {j : Nat} (hj : j < k) :
    ∃ i, (afterMoves T validate w (j + 1)).index? = some i ∧
      ∀ c, (afterMoves T validate w j).index? = some c → c < i := by
  obtain ⟨-, -, i, hi, hindex⟩ := place_of_next (h.inBounds hw (Nat.le_of_lt hj)) (h.moved j hj)
  rw [afterMoves_succ']
  exact ⟨i, hindex, fun c hc => lt_of_mem_ahead hc hi⟩

/-- A limit that is not reached makes no difference: the wizard moves on until a move does not
succeed. -/
lemma Halts.advance {limit : Nat} (h : Halts T validate w k) (hlimit : k < limit) :
    (advance T validate limit w).result =
        (next T validate (afterMoves T validate w k)).result.map (fun _ => k) ∧
      (advance T validate limit w).state = afterMoves T validate w (k + 1) := by
  obtain ⟨limit, rfl⟩ : ∃ n, limit = n + 1 := ⟨limit - 1, by omega⟩
  induction k generalizing w limit with
  | zero =>
    have hhalted : (next T validate w).result ≠ .ok true := h.halted
    have hafter : afterMoves T validate w 0 = w := rfl
    rw [afterMoves_succ', hafter]
    rcases hnext : next T validate w with ⟨failure | moved, v, js⟩
    · rw [Wizard.advance, bind_of_error hnext]
      exact ⟨rfl, rfl⟩
    · rw [hnext] at hhalted
      cases moved with
      | false =>
        rw [Wizard.advance, bind_of_ok hnext]
        exact ⟨rfl, rfl⟩
      | true => exact absurd rfl hhalted
  | succ k ih =>
    obtain ⟨hfirst, hrest⟩ := halts_succ.mp h
    obtain ⟨limit, rfl⟩ : ∃ n, limit = n + 1 := ⟨limit - 1, by omega⟩
    obtain ⟨hresult, hstate⟩ := ih hrest limit (by omega)
    rw [afterMoves_succ, afterMoves_succ]
    rcases hnext : next T validate w with ⟨result, v, js⟩
    rw [hnext] at hfirst hresult hstate
    obtain rfl : result = .ok true := hfirst
    rw [Wizard.advance, bind_of_ok hnext, if_pos rfl, bind_pure_apply]
    refine ⟨?_, hstate⟩
    dsimp only at hresult ⊢
    rw [hresult]
    cases (next T validate (afterMoves T validate v k)).result <;> rfl

end SetupWizard.Wizard
