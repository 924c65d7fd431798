/-
# Sound definitions

The check of a definition looks for its first defect in a fixed order.  This file says what a
definition has that passes: ids that are filled in and distinct, and references that lead to
something that is declared.  The check passes for these definitions and for no others.
-/
import SetupWizard.Proofs.Condition.Consulted
import SetupWizard.Proofs.Definition.Check
import SetupWizard.Proofs.Validation

namespace SetupWizard.Definition

variable {d : Definition}

/-- What is declared is complete: it has a panel, its ids are filled in and distinct, and what it
refers to is there. -/
structure Sound (d : Definition) : Prop where
  panels : d.panels ≠ []
  filled_panelIds : ∀ p ∈ d.panels, Text.isBlankText p.id = false
  nodup_panelIds : (d.panels.map Panel.id).Nodup
  filled_conditionIds : ∀ c ∈ d.conditions, Text.isBlankText c.id = false
  nodup_conditionIds : d.conditionIds.Nodup
  /-- What a condition names under `all` or `any` is declared. -/
  references : ∀ c ∈ d.conditions, ∀ id ∈ c.all ++ c.any, id ∈ d.conditionIds
  filled_names : ∀ r ∈ d.derivations, Text.isBlankText r.name = false
  derivationConditions : ∀ r ∈ d.derivations, ∀ id ∈ r.condition?, id ∈ d.conditionIds
  panelConditions : ∀ p ∈ d.panels, ∀ id ∈ p.condition?, id ∈ d.conditionIds
  panelValidators : ∀ p ∈ d.panels, ∀ id ∈ p.validators, id ∈ d.requirementIds

/-! ### The parts of the check -/

/-- No reference leads nowhere exactly if all of them are declared. -/
lemma dangling?_eq_none_iff {declared references : List String} :
    dangling? declared references = none ↔ ∀ id ∈ references, id ∈ declared := by
  simp [dangling?]

lemma conditionDefect?_eq_none_iff {c : Condition} :
    d.conditionDefect? c = none ↔ ∀ id ∈ c.all ++ c.any, id ∈ d.conditionIds := by
  rw [conditionDefect?, Option.map_eq_none_iff, dangling?_eq_none_iff, Condition.references]

lemma derivationDefect?_eq_none_iff {r : Derivation} :
    d.derivationDefect? r = none ↔
      Text.isBlankText r.name = false ∧ ∀ id ∈ r.condition?, id ∈ d.conditionIds := by
  rw [derivationDefect?]
  by_cases hblank : Text.isBlankText r.name = true
  · simp [hblank]
  · rw [if_neg hblank, Option.map_eq_none_iff, dangling?_eq_none_iff]
    simp [hblank]

lemma panelDefect?_eq_none_iff {p : Panel} :
    d.panelDefect? p = none ↔
      (∀ id ∈ p.condition?, id ∈ d.conditionIds) ∧ ∀ id ∈ p.validators, id ∈ d.requirementIds := by
  rw [panelDefect?]
  cases h : dangling? d.conditionIds p.condition?.toList with
  | none =>
    rw [Option.map_eq_none_iff, dangling?_eq_none_iff]
    have hcondition := dangling?_eq_none_iff.mp h
    simp only [Option.mem_toList] at hcondition
    exact (and_iff_right hcondition).symm
  | some missing =>
    refine iff_of_false (by simp) fun hsound => ?_
    rw [dangling?_eq_none_iff.mpr (by simpa using hsound.1)] at h
    cases h

/-- **The check is exact**: it passes for sound definitions and for no others. -/
lemma check_eq_ok_iff_sound : d.check = .ok () ↔ d.Sound := by
  rw [check_eq_ok_iff, defect?]
  by_cases hempty : d.panels.isEmpty = true
  · rw [if_pos hempty]
    exact iff_of_false (by simp) fun h => h.panels (List.isEmpty_iff.mp hempty)
  · rw [if_neg hempty, Option.or_eq_none_iff, Option.or_eq_none_iff, Option.or_eq_none_iff,
      Option.or_eq_none_iff, idDefect?_eq_none_iff, idDefect?_eq_none_iff,
      List.findSome?_eq_none_iff, List.findSome?_eq_none_iff, List.findSome?_eq_none_iff]
    simp only [conditionDefect?_eq_none_iff, derivationDefect?_eq_none_iff,
      panelDefect?_eq_none_iff, conditionIds, List.forall_mem_map]
    constructor
    · rintro ⟨⟨hpanels, hpanelIds, -⟩, ⟨hconditions, hconditionIds, -⟩, hreferences, hrules,
        hpanelReferences⟩
      exact ⟨fun h => hempty (List.isEmpty_iff.mpr h), hpanels, hpanelIds, hconditions,
        hconditionIds, hreferences, fun r hr => (hrules r hr).1, fun r hr => (hrules r hr).2,
        fun p hp => (hpanelReferences p hp).1, fun p hp => (hpanelReferences p hp).2⟩
    · intro h
      exact ⟨⟨h.filled_panelIds, h.nodup_panelIds, by simp⟩,
        ⟨h.filled_conditionIds, h.nodup_conditionIds, by simp⟩, h.references,
        fun r hr => ⟨h.filled_names r hr, h.derivationConditions r hr⟩,
        fun p hp => ⟨h.panelConditions p hp, h.panelValidators p hp⟩⟩

/-! ### What a sound definition refers to -/

/-- The table of the declared conditions. -/
def table (d : Definition) : ConditionTable := .ofConditions d.conditions

lemma mem_table_iff {id : String} : id ∈ d.table ↔ id ∈ d.conditionIds :=
  ConditionTable.mem_ofConditions_iff

/-- Whatever is consulted for a declared condition is declared. -/
lemma Sound.mem_table (h : d.Sound) {depth : Nat} {id id' : String} (hid : id ∈ d.conditionIds)
    (hconsults : d.table.Consults depth id id') : id' ∈ d.table := by
  refine mem_table_iff.mpr (hconsults.induction_on_references (fun id c hc _ next hnext => ?_) hid)
  exact h.references c (ConditionTable.mem_of_getElem?_ofConditions hc) next
    (Condition.references_test_subset c hnext)

/-- The validators of the panels are in the catalogue. -/
lemma Sound.mem_catalog (h : d.Sound) {p : Panel} (hp : p ∈ d.panels) {id : String}
    (hid : id ∈ p.validators) : id ∈ d.catalog := by
  obtain ⟨r, hr, hrid⟩ := List.mem_map.mp (h.panelValidators p hp id hid)
  rw [Std.ExtTreeMap.mem_iff_isSome_getElem?, catalog, Requirement.getElem?_catalog,
    Option.isSome_map, List.find?_isSome]
  exact ⟨r, List.mem_reverse.mpr hr, beq_iff_eq.mpr hrid⟩

end SetupWizard.Definition
