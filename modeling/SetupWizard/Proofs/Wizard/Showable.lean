/-
# The panels that can be shown

A panel can be shown in an environment when its view is visible, its condition holds, and its view
agrees (`Showable`).  The view is asked with the memory that it has, or else would be made with.

A search looks at one position after the other.  So what is found ahead is the least position of a
panel that can be shown, and what is found behind is the greatest (`isLeast_of_findNext`,
`isGreatest_of_findPrevious`); and nothing is found only if there is no such panel.  As a search
leaves the outlook as it is, any search after it comes to the same.
-/
import Mathlib.Order.Bounds.Basic
import SetupWizard.Proofs.Wizard.Laziness
import SetupWizard.Proofs.Wizard.Target

namespace SetupWizard.Wizard

open Attempt

variable {σ : Type} {T : Toolkit σ} {w w' : Wizard σ} {env : Environment} {i new : Nat}
  {js : List Event}

/-- The panel at a position can be shown in an environment: its view reports itself visible, its
condition holds, if it has one, and its view agrees. -/
inductive Showable (T : Toolkit σ) (w : Wizard σ) (env : Environment) (i : Nat) : Prop
  | intro {panel : Panel} {memory : σ} (view : (w.outlook T)[i]? = some (panel, .ok memory))
      (visible : T.hooks.isVisible memory panel = true)
      (condition : ∀ id, panel.condition? = some id → env.isTrue id = true)
      (agrees : T.hooks.canShow memory panel env = true)

/-- The positions after the current panel, or all if there is none, whose panels can be shown. -/
def showableAhead (T : Toolkit σ) (w : Wizard σ) (env : Environment) : Set Nat :=
  {i | (∀ c, w.index? = some c → c < i) ∧ Showable T w env i}

/-- The positions before the current panel whose panels can be shown. -/
def showableBehind (T : Toolkit σ) (w : Wizard σ) (env : Environment) : Set Nat :=
  {i | (∃ c, w.index? = some c ∧ i < c) ∧ Showable T w env i}

/-! ### What can be shown -/

/-- Whether a panel is shown can be told from the outlook. -/
lemma shows_eq_outlook (T : Toolkit σ) (w : Wizard σ) (env : Environment) (i : Nat) :
    w.shows T env i =
      match (w.outlook T)[i]? with
      | none => .error (.panelIndex i w.size)
      | some (panel, made) => made.map fun memory => T.hooks.shows memory panel env false := by
  rw [getElem?_outlook, shows]
  cases w.slots[i]? with
  | none => rfl
  | some slot =>
    obtain ⟨panel, view?⟩ := slot
    cases view? <;> rfl

lemma shows_eq_true_iff {hooks : Hooks σ} {memory : σ} {panel : Panel} :
    hooks.shows memory panel env false = true ↔ hooks.isVisible memory panel = true ∧
      (∀ id, panel.condition? = some id → env.isTrue id = true) ∧
      hooks.canShow memory panel env = true := by
  simp [Hooks.shows, Hooks.considers, Option.all_eq_true, and_assoc]

/-- The panels that can be shown are those that a search would stop at. -/
lemma showable_iff : Showable T w env i ↔ w.shows T env i = .ok true := by
  rw [shows_eq_outlook]
  constructor
  · rintro ⟨hview, hvisible, hcondition, hagrees⟩
    rw [hview]
    exact congrArg Except.ok (shows_eq_true_iff.mpr ⟨hvisible, hcondition, hagrees⟩)
  · intro h
    rcases hview : (w.outlook T)[i]? with _ | ⟨panel, failure | memory⟩ <;> rw [hview] at h
    · cases h
    · cases h
    · obtain ⟨hvisible, hcondition, hagrees⟩ := shows_eq_true_iff.mp (Except.ok.inj h)
      exact ⟨hview, hvisible, hcondition, hagrees⟩

instance : Decidable (Showable T w env i) := decidable_of_iff _ showable_iff.symm

lemma Showable.lt_size (h : Showable T w env i) : i < w.size := by
  obtain ⟨hview, -, -, -⟩ := h
  rw [getElem?_outlook, Option.map_eq_some_iff] at hview
  obtain ⟨slot, hslot, -⟩ := hview
  exact (List.getElem?_eq_some_iff.mp hslot).1

lemma showable_congr (houtlook : w'.outlook T = w.outlook T) :
    Showable T w' env i ↔ Showable T w env i := by
  constructor
  · rintro ⟨hview, hvisible, hcondition, hagrees⟩
    exact ⟨houtlook ▸ hview, hvisible, hcondition, hagrees⟩
  · rintro ⟨hview, hvisible, hcondition, hagrees⟩
    exact ⟨houtlook ▸ hview, hvisible, hcondition, hagrees⟩

lemma Alike.showableAhead (h : Alike T w w') (env : Environment) :
    showableAhead T w' env = showableAhead T w env := by
  simp only [Wizard.showableAhead, h.index, showable_congr h.outlook]

lemma Alike.showableBehind (h : Alike T w w') (env : Environment) :
    showableBehind T w' env = showableBehind T w env := by
  simp only [Wizard.showableBehind, h.index, showable_congr h.outlook]

/-- While the wizard goes aside, the panels ahead can be shown as before. -/
lemma showableAhead_aside (h : (aside T).ok w js w') (env : Environment) :
    showableAhead T w' env = showableAhead T w env := by
  obtain ⟨-, hplace, hshows⟩ := h
  ext i
  simp only [showableAhead, Set.mem_ofPred_eq, hplace.index, showable_iff]
  refine and_congr_right fun hi => ?_
  have hne : w.index? ≠ some i := fun h => Nat.lt_irrefl i (hi i h)
  rw [hshows i hne]

/-! ### Where a search looks -/

lemma mem_ahead_iff : i ∈ w.ahead ↔ (∀ c, w.index? = some c → c < i) ∧ i < w.size := by
  unfold ahead
  cases hc : w.index? with
  | none => simp
  | some c =>
    simp only [Option.some.injEq, forall_eq']
    constructor
    · intro hi
      obtain ⟨k, hk, rfl⟩ := List.getElem_of_mem hi
      rw [List.length_drop, List.length_range] at hk
      rw [List.getElem_drop, List.getElem_range]
      omega
    · rintro ⟨hlt, hi⟩
      refine List.mem_iff_getElem?.mpr ⟨i - (c + 1), ?_⟩
      rw [List.getElem?_drop, Nat.add_sub_of_le hlt, List.getElem?_range hi]

lemma mem_behind_iff : i ∈ w.behind ↔ ∃ c, w.index? = some c ∧ i < c := by
  unfold behind
  cases w.index? <;> simp

lemma sorted_behind (w : Wizard σ) : w.behind.Pairwise (· > ·) := by
  unfold behind
  split
  · exact List.Pairwise.nil
  · exact List.pairwise_reverse.mpr List.pairwise_lt_range

lemma mem_showableAhead : i ∈ showableAhead T w env ↔ i ∈ w.ahead ∧ Showable T w env i := by
  rw [mem_ahead_iff]
  exact ⟨fun h => ⟨⟨h.1, h.2.lt_size⟩, h.2⟩, fun h => ⟨h.1.1, h.2⟩⟩

lemma mem_showableBehind : i ∈ showableBehind T w env ↔ i ∈ w.behind ∧ Showable T w env i := by
  rw [mem_behind_iff]
  rfl

/-! ### What a search finds -/

/-- Nothing is found only if none of the panels that are looked at can be shown. -/
lemma not_showable_of_firstShown {is : List Nat}
    (h : firstShown T false is w = ⟨.ok none, w', js⟩) : ∀ i ∈ is, ¬Showable T w w.env i := by
  induction is generalizing w js with
  | nil => exact fun i hi => absurd hi List.not_mem_nil
  | cons k ks ih =>
    obtain ⟨shown, v, js₁, js₂, hk, hrest, -⟩ := exists_of_bind_ok h
    have hlooked := looked_of_canShow hk
    cases shown with
    | true => cases hrest
    | false =>
      have hhidden : w.shows T w.env k = .ok false := by rw [← result_canShow, hk]
      rintro i (_ | ⟨_, hi⟩)
      · rw [showable_iff, hhidden]
        exact fun h => by cases h
      · have hrestHidden := ih hrest i hi
        rwa [showable_iff, hlooked.env, hlooked.shows, ← showable_iff] at hrestHidden

/-- Of the panels that can be shown, the one that is found comes first. -/
lemma first_of_firstShown {is : List Nat} {r : Nat → Nat → Prop} (his : is.Pairwise r)
    (h : firstShown T false is w = ⟨.ok (some new), w', js⟩) :
    new ∈ is ∧ Showable T w w.env new ∧
      ∀ i ∈ is, Showable T w w.env i → i = new ∨ r new i := by
  obtain ⟨before, after, rfl, hnew, hbefore⟩ := shows_of_firstShown h
  have hafter : ∀ i ∈ after, r new i :=
    (List.pairwise_cons.mp (List.pairwise_append.mp his).2.1).1
  refine ⟨List.mem_append_right before List.mem_cons_self, showable_iff.mpr hnew,
    fun i hi hshown => ?_⟩
  rcases List.mem_append.mp hi with hi | hi
  · rw [showable_iff, hbefore i hi] at hshown
    cases hshown
  · rcases List.mem_cons.mp hi with rfl | hi
    · exact .inl rfl
    · exact .inr (hafter i hi)

/-- **What is found ahead** is the least position of a panel that can be shown. -/
lemma isLeast_of_findNext (h : findNext T false w = ⟨.ok (some new), w', js⟩) :
    IsLeast (showableAhead T w w.env) new := by
  obtain ⟨hmem, hshown, hfirst⟩ := first_of_firstShown (sorted_ahead w) h
  refine ⟨mem_showableAhead.mpr ⟨hmem, hshown⟩, fun i hi => ?_⟩
  obtain ⟨hi, hishown⟩ := mem_showableAhead.mp hi
  rcases hfirst i hi hishown with rfl | hlt
  · exact Nat.le_refl i
  · exact Nat.le_of_lt hlt

/-- **What is found behind** is the greatest position of a panel that can be shown. -/
lemma isGreatest_of_findPrevious (h : findPrevious T w = ⟨.ok (some new), w', js⟩) :
    IsGreatest (showableBehind T w w.env) new := by
  obtain ⟨hmem, hshown, hfirst⟩ := first_of_firstShown (sorted_behind w) h
  refine ⟨mem_showableBehind.mpr ⟨hmem, hshown⟩, fun i hi => ?_⟩
  obtain ⟨hi, hishown⟩ := mem_showableBehind.mp hi
  rcases hfirst i hi hishown with rfl | hgt
  · exact Nat.le_refl i
  · exact Nat.le_of_lt hgt

/-- Something is found if and only if one of the panels that are looked at can be shown. -/
lemma isSome_firstShown_iff {is : List Nat} {found? : Option Nat}
    (h : firstShown T false is w = ⟨.ok found?, w', js⟩) :
    found?.isSome = true ↔ ∃ i ∈ is, Showable T w w.env i := by
  cases found? with
  | some new =>
    obtain ⟨before, after, rfl, hnew, -⟩ := shows_of_firstShown h
    refine iff_of_true rfl ⟨new, ?_, showable_iff.mpr hnew⟩
    exact List.mem_append_right before List.mem_cons_self
  | none =>
    refine iff_of_false Bool.false_ne_true ?_
    rintro ⟨i, hi, hshown⟩
    exact not_showable_of_firstShown h i hi hshown

lemma isSome_findNext_iff {found? : Option Nat} (h : findNext T false w = ⟨.ok found?, w', js⟩) :
    found?.isSome = true ↔ (showableAhead T w w.env).Nonempty := by
  have hsearch : firstShown T false w.ahead w = _ := h
  rw [isSome_firstShown_iff hsearch]
  exact exists_congr fun i => mem_showableAhead.symm

lemma isSome_findPrevious_iff {found? : Option Nat}
    (h : findPrevious T w = ⟨.ok found?, w', js⟩) :
    found?.isSome = true ↔ (showableBehind T w w.env).Nonempty := by
  have hsearch : firstShown T false w.behind w = _ := h
  rw [isSome_firstShown_iff hsearch]
  exact exists_congr fun i => mem_showableBehind.symm

/-! ### Whether the ways are open -/

/-- A way is open if its switch is on and the search along it finds a panel. -/
lemma enabled_iff_of_search {search : Attempt Event (Wizard σ) (Option Nat)} {isOn enabled : Bool}
    {Found : Prop}
    (hsearch : ∀ {found? v js}, search w = ⟨.ok found?, v, js⟩ → (found?.isSome = true ↔ Found))
    (h : (if isOn then return (← search).isSome else return false : Attempt Event (Wizard σ) Bool)
      w = ⟨.ok enabled, w', js⟩) : enabled = true ↔ isOn = true ∧ Found := by
  cases isOn with
  | true =>
    obtain ⟨found?, v, _, _, hfound, hrest, -⟩ := exists_of_bind_ok h
    cases hrest
    rw [hsearch hfound]
    exact (and_iff_right rfl).symm
  | false =>
    cases h
    exact iff_of_false Bool.false_ne_true fun h => Bool.false_ne_true h.1

lemma isNextEnabled_iff {enabled : Bool} (h : isNextEnabled T w = ⟨.ok enabled, w', js⟩) :
    enabled = true ↔ w.navigation.next = true ∧ (showableAhead T w w.env).Nonempty := by
  rw [isNextEnabled, Attempt.get_bind] at h
  exact enabled_iff_of_search isSome_findNext_iff h

lemma isPreviousEnabled_iff {enabled : Bool}
    (h : isPreviousEnabled T w = ⟨.ok enabled, w', js⟩) :
    enabled = true ↔ w.navigation.previous = true ∧ (showableBehind T w w.env).Nonempty := by
  rw [isPreviousEnabled, Attempt.get_bind] at h
  exact enabled_iff_of_search isSome_findPrevious_iff h

/-- To look leaves the wizard as it is, but for views that are made on the way. -/
lemma alike_of_looking {α : Type} {m : Attempt Event (Wizard σ) α} {a : α}
    (hm : m.Obeys (.keeping (Alike T w)) w) (h : m w = ⟨.ok a, w', js⟩) : Alike T w w' := by
  have halike := hm.keeps (.refl T w)
  rwa [h] at halike

lemma alike_of_findNext {found? : Option Nat} (h : findNext T false w = ⟨.ok found?, w', js⟩) :
    Alike T w w' :=
  alike_of_looking ((admitsLooking_keeping w).findNext false) h

lemma alike_of_findPrevious {found? : Option Nat}
    (h : findPrevious T w = ⟨.ok found?, w', js⟩) : Alike T w w' :=
  alike_of_looking (admitsLooking_keeping w).findPrevious h

lemma alike_of_isPreviousEnabled {enabled : Bool}
    (h : isPreviousEnabled T w = ⟨.ok enabled, w', js⟩) : Alike T w w' :=
  alike_of_looking (admitsLooking_keeping w).isPreviousEnabled h

end SetupWizard.Wizard
