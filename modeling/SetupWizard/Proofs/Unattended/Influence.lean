/-
# What has an influence on unattended runs

Every panel of a definition has a view in an unattended run, with the data that a record has for
the panel.  But a view uses its data only where the panel is entered or recorded, and so it is only
the data for the visited panels that a run depends on (`Unattended.sameOutcome_of_visited`).  In
particular it makes no difference what a record says about other panels, or in which order it lists
different panels.
-/
import Mathlib.Data.List.Basic
import SetupWizard.Proofs.Unattended.Answers
import SetupWizard.Proofs.Unattended.Run

namespace SetupWizard

/-- The data of a panel comes from the entries for the panel. -/
lemma Replay.answersOf_filter (records : List PanelRecord) (id : String) :
    answersOf (records.filter fun r => r.panel = id) id = answersOf records id := by
  induction records using List.reverseRecOn with
  | nil => rfl
  | append_singleton records r ih =>
    rw [List.filter_append, answersOf_append_singleton, ← ih]
    by_cases h : r.panel = id
    · rw [if_pos h, List.filter_cons_of_pos (by simpa using h), List.filter_nil,
        answersOf_append_singleton, if_pos h]
    · rw [if_neg h, List.filter_cons_of_neg (by simpa using h), List.filter_nil, List.append_nil]

namespace Course

variable {d : Definition} {R R' : List PanelRecord} {w w' : Wizard Texts} {x : Course}

/-- Wizards that follow the same course differ in their views only. -/
lemma Follows.face (h : Follows d R w x) (h' : Follows d R' w' x) : w'.face = w.face := by
  have hpanels : w'.panels = w.panels :=
    List.ext_getElem? fun i => (h'.panel? i).trans (h.panel? i).symm
  rw [Wizard.face, Wizard.face, hpanels, h'.env, h.env, h'.navigation, h.navigation, h'.index,
    h.index]

/-- A panel that is recorded is one of the visited panels of a wizard that follows the course. -/
lemma Follows.mem_visited (h : Follows d R w x) {i : Nat} (hi : i ∈ x.recorded d) :
    ∃ p, d.panels[i]? = some p ∧ x.mark i p ∈ w.panels.filter Panel.visited := by
  obtain ⟨hsize, hvisited⟩ := List.mem_filter.mp hi
  obtain ⟨p, hp⟩ := h.exists_panel (h.size ▸ List.mem_range.mp hsize)
  have hpanel : w.panel? i = some (x.mark i p) := by rw [h.panel?, hp, Option.map_some]
  refine ⟨p, hp, List.mem_filter.mpr ⟨List.mem_of_getElem? hpanel, ?_⟩⟩
  rw [hp] at hvisited
  exact hvisited

end Course

namespace Unattended

open Course

variable {d : Definition} {R R' : List PanelRecord} {validate : Bool}

/-- How a run ends, and the wizard that it leaves. -/
def ending (d : Definition) (R : List PanelRecord) (validate : Bool) :
    Report Event (Wizard Texts) (Except Failure Bool) :=
  proceed (toolkit d R) validate d.wizard

/-- The panels that a run has visited. -/
def visited (d : Definition) (R : List PanelRecord) (validate : Bool) : List Panel :=
  (ending d R validate).state.panels.filter Panel.visited

/-- Two runs come to the same: they end in the same way, with the same panels visited, the same
panel current and the same environment, and what there is to be recorded is the same. -/
structure SameOutcome (d : Definition) (R R' : List PanelRecord) (validate : Bool) : Prop where
  result : (ending d R' validate).result = (ending d R validate).result
  face : (ending d R' validate).state.face = (ending d R validate).state.face
  installation : (Wizard.installationRecord (toolkit d R') (ending d R' validate).state).result =
    (Wizard.installationRecord (toolkit d R) (ending d R validate).state).result
  record : record d R' validate = record d R validate

lemma follows_ending (d : Definition) (R : List PanelRecord) (validate : Bool) :
    Agrees d R (ending d R validate) (course d R validate) :=
  follows_proceed validate (follows_start d R)

section Answers

variable (h : ∀ p ∈ visited d R validate, Replay.answersOf R' p.id = Replay.answersOf R p.id)
include h

/-- Whatever is recorded gets the same data. -/
lemma dataAt_of_visited {i : Nat} (hi : i ∈ (course d R validate).state.recorded d) :
    d.dataAt (Replay.answersOf R') i = d.dataAt (Replay.answersOf R) i := by
  obtain ⟨p, hp, hmem⟩ := (follows_ending d R validate).follows.mem_visited hi
  rw [dataAt_of_panel hp, dataAt_of_panel hp]
  exact h ((course d R validate).state.mark i p) hmem

/-- With the same data for the visited panels a run takes the same course. -/
lemma course_of_visited : course d R' validate = course d R validate := by
  refine (attuned_proceed validate _ _).2 _ fun i hi => ?_
  cases hp : d.panels[i]? with
  | none => rw [Definition.dataAt, Definition.dataAt, hp]
  | some p => exact dataAt_of_visited h (mem_recorded_of_mem_trail hi hp)

/-- And what it records in the end is the same. -/
lemma record_of_visited :
    (course d R validate).state.record d (Replay.answersOf R') =
      (course d R validate).state.record d (Replay.answersOf R) := by
  refine List.filterMap_congr fun i hi => ?_
  have hdata := dataAt_of_visited h hi
  cases hp : d.panels[i]? with
  | none =>
    rw [entryAt?, entryAt?, hp]
    rfl
  | some p =>
    rw [dataAt_of_panel hp, dataAt_of_panel hp] at hdata
    rw [entryAt?_of_panel hp, entryAt?_of_panel hp, hdata]

/-- **Runs with the same data for the visited panels come to the same.** -/
lemma sameOutcome_of_answers : SameOutcome d R R' validate := by
  have hcourse := course_of_visited h
  have hfirst := follows_ending d R validate
  have hsecond := follows_ending d R' validate
  rw [hcourse] at hsecond
  refine ⟨hsecond.result.trans hfirst.result.symm, hfirst.follows.face hsecond.follows, ?_, ?_⟩
  · rw [(follows_installationRecord hsecond.follows).result,
      (follows_installationRecord hfirst.follows).result, record_of_visited h]
  · have hrecord := record_of_visited h
    rw [record_eq, record_eq, hcourse]
    dsimp only
    rw [hrecord]

end Answers

/-- **Only the data for the visited panels matters.**  A run with other records comes to the same
if they have the same data for each panel that has been visited, and so in particular if they have
the same entries for each of these panels in the same order, whatever they have in between. -/
theorem sameOutcome_of_visited (d : Definition) (R R' : List PanelRecord) (validate : Bool) :
    ((∀ p ∈ visited d R validate, Replay.answersOf R' p.id = Replay.answersOf R p.id) →
      SameOutcome d R R' validate) ∧
    ((∀ p ∈ visited d R validate,
      (R'.filter fun r => r.panel = p.id) = R.filter fun r => r.panel = p.id) →
      SameOutcome d R R' validate) := by
  refine ⟨sameOutcome_of_answers, fun h => sameOutcome_of_answers fun p hp => ?_⟩
  rw [← Replay.answersOf_filter R', h p hp, Replay.answersOf_filter]

/-- A definition with a panel that is never shown. -/
def hiddenPanel : Definition where
  panels := [{ id := "a", className := "Input" },
    { id := "h", className := "Input", visible := false }, { id := "b", className := "Input" }]

/-- Other data for the hidden panel, and the other panels in another order. -/
theorem sameOutcome_of_hiddenPanel :
    let R : List PanelRecord :=
      [⟨"a", .ofList [("X", "1")]⟩, ⟨"h", .ofList [("Y", "2")]⟩, ⟨"b", .ofList [("X", "3")]⟩]
    let R' : List PanelRecord :=
      [⟨"b", .ofList [("X", "3")]⟩, ⟨"h", .ofList [("X", "4")]⟩, ⟨"a", .ofList [("X", "1")]⟩]
    visited hiddenPanel R true ≠ [] ∧
      (∀ p ∈ visited hiddenPanel R true, Replay.answersOf R' p.id = Replay.answersOf R p.id) ∧
      (∀ p ∈ visited hiddenPanel R true,
        (R'.filter fun r => r.panel = p.id) = R.filter fun r => r.panel = p.id) ∧
      SameOutcome hiddenPanel R R' true := by
  intro R R'
  have hentries : ∀ p ∈ visited hiddenPanel R true,
      (R'.filter fun r => r.panel = p.id) = R.filter fun r => r.panel = p.id := by decide +kernel
  exact ⟨by decide +kernel, by decide +kernel, hentries,
    (sameOutcome_of_visited hiddenPanel R R' true).2 hentries⟩

end Unattended

end SetupWizard
