/-
# What a sound definition has

A definition that passes its check has distinct ids for its panels.
-/
import Mathlib.Tactic.Lemma
import SetupWizard.Definition.Check

namespace SetupWizard.Definition

variable {d : Definition}

/-- A list of ids is without defect when they are filled in, distinct, and none was seen before. -/
lemma idDefect?_eq_none_iff {blank : Defect} {duplicate : String → Defect}
    {seen ids : List String} :
    idDefect? blank duplicate seen ids = none ↔
      (∀ id ∈ ids, Text.isBlankText id = false) ∧ ids.Nodup ∧ ∀ id ∈ ids, id ∉ seen := by
  induction ids generalizing seen with
  | nil => simp [idDefect?]
  | cons id ids ih =>
    rw [idDefect?]
    by_cases hblank : Text.isBlankText id = true
    · simp [hblank]
    · by_cases hseen : id ∈ seen
      · simp [hblank, hseen]
      · rw [if_neg hblank, if_neg hseen, ih]
        have hfresh : (∀ id' ∈ ids, id' ∉ id :: seen) ↔ id ∉ ids ∧ ∀ id' ∈ ids, id' ∉ seen := by
          constructor
          · intro h
            exact ⟨fun hmem => h id hmem List.mem_cons_self,
              fun id' hmem hmem' => h id' hmem (List.mem_cons_of_mem id hmem')⟩
          · rintro ⟨hid, hids⟩ id' hmem hmem'
            rcases List.mem_cons.mp hmem' with rfl | hmem'
            · exact hid hmem
            · exact hids id' hmem hmem'
        rw [hfresh, List.nodup_cons, List.forall_mem_cons, List.forall_mem_cons]
        simp only [Bool.not_eq_true] at hblank
        constructor
        · rintro ⟨hfilled, hnodup, hid, hids⟩
          exact ⟨⟨hblank, hfilled⟩, ⟨hid, hnodup⟩, hseen, hids⟩
        · rintro ⟨⟨-, hfilled⟩, ⟨hid, hnodup⟩, -, hids⟩
          exact ⟨hfilled, hnodup, hid, hids⟩

lemma idDefect?_panels_of_check (h : d.check = .ok ()) :
    idDefect? .blankPanelId .duplicatePanel [] (d.panels.map Panel.id) = none := by
  have hnone := check_eq_ok_iff.mp h
  unfold defect? at hnone
  by_cases hempty : d.panels.isEmpty = true
  · rw [if_pos hempty] at hnone
    cases hnone
  · rw [if_neg hempty] at hnone
    exact (Option.or_eq_none_iff.mp hnone).1

/-- The panels of a sound definition have distinct ids. -/
lemma nodup_ids_of_check (h : d.check = .ok ()) : (d.panels.map Panel.id).Nodup :=
  (idDefect?_eq_none_iff.mp (idDefect?_panels_of_check h)).2.1

end SetupWizard.Definition
