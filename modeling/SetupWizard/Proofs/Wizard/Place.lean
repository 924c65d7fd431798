/-
# The place of a wizard

The place of a wizard is what a user sees of its position: the current panel and the panels with
their marks of having been visited.  Views, variables and switches may change without the wizard
moving.  This file compares the places of two states and says how arriving at a panel changes
the place; nothing else that a wizard does changes it.
-/
import Mathlib.Tactic.Lemma
import SetupWizard.Wizard.Navigation

namespace SetupWizard

/-- The position of the panel that is entered, in an entry for a view that is brought up. -/
def Event.entered? : Event → Option Nat
  | .turned .entering i _ => some i
  | _ => none

/-- The positions of the panels that are entered, in order. -/
def entered (js : List Event) : List Nat := js.filterMap Event.entered?

@[simp] lemma entered_nil : entered [] = [] := rfl

@[simp] lemma entered_append (js ks : List Event) : entered (js ++ ks) = entered js ++ entered ks :=
  List.filterMap_append

@[simp] lemma entered_entering (i : Nat) (env : Environment) (js : List Event) :
    entered (.turned .entering i env :: js) = i :: entered js := rfl

/-- While a hook runs, nothing is entered. -/
@[simp] lemma entered_map_remarked (remarks : List Remark) :
    entered (remarks.map Event.remarked) = [] := by
  simp [entered, List.filterMap_map, Function.comp_def, Event.entered?]

/-- Nothing is entered in a refresh. -/
lemma entered_refreshed (env : Environment) :
    entered (.refreshed env :: env.evaluations.map fun e => Event.remarked (.evaluated e)) = [] := by
  have h := entered_map_remarked (env.evaluations.map Remark.evaluated)
  rwa [List.map_map] at h

/-- Only on the occasion of its being entered a panel is entered. -/
lemma entered_turned {occasion : Occasion} (h : occasion ≠ .entering) (i : Nat)
    (env : Environment) (remarks : List Remark) :
    entered (.turned occasion i env :: remarks.map Event.remarked) = [] := by
  have hnone : Event.entered? (.turned occasion i env) = none := by
    cases occasion <;> first | rfl | exact absurd rfl h
  rw [entered, List.filterMap_cons_none hnone]
  exact entered_map_remarked remarks

namespace Wizard

variable {σ : Type} {w w' w'' : Wizard σ}

/-- Two states of a wizard with the same current panel and the same panels, marks included. -/
structure SamePlace (w w' : Wizard σ) : Prop where
  panels : w'.panels = w.panels
  index : w'.index? = w.index?

namespace SamePlace

lemma refl (w : Wizard σ) : SamePlace w w := ⟨rfl, rfl⟩

lemma symm (h : SamePlace w w') : SamePlace w' w := ⟨h.panels.symm, h.index.symm⟩

lemma trans (h : SamePlace w w') (h' : SamePlace w' w'') : SamePlace w w'' :=
  ⟨h'.panels.trans h.panels, h'.index.trans h.index⟩

end SamePlace

/-- A wizard without its views. -/
structure Face where
  /-- The panels in order, with their marks. -/
  panels : List Panel
  /-- What the panels share. -/
  env : Environment
  /-- The switches for the ways forward and back. -/
  navigation : Navigation
  /-- The position of the current panel. -/
  index? : Option Nat

/-- What there is to a wizard apart from its views. -/
def face (w : Wizard σ) : Face := ⟨w.panels, w.env, w.navigation, w.index?⟩

/-- The current panel is one of the panels. -/
def InBounds (w : Wizard σ) : Prop := ∀ i, w.index? = some i → i < w.size

lemma size_eq (w : Wizard σ) : w.size = w.panels.length := by simp [size, panels]

lemma SamePlace.size (h : SamePlace w w') : w'.size = w.size := by
  rw [size_eq, size_eq, h.panels]

lemma SamePlace.panel? (h : SamePlace w w') (i : Nat) : w'.panel? i = w.panel? i := by
  rw [Wizard.panel?, Wizard.panel?, h.panels]

lemma SamePlace.inBounds (h : SamePlace w w') (hw : w.InBounds) : w'.InBounds := by
  intro i hi
  rw [h.size]
  exact hw i (h.index ▸ hi)

lemma SamePlace.ahead (h : SamePlace w w') : w'.ahead = w.ahead := by
  rw [Wizard.ahead, Wizard.ahead, h.index, h.size]

lemma SamePlace.behind (h : SamePlace w w') : w'.behind = w.behind := by
  rw [Wizard.behind, Wizard.behind, h.index]

lemma panel?_eq (w : Wizard σ) (i : Nat) : w.panel? i = (w.slots[i]?).map Slot.panel := by
  simp [panel?, panels]

@[simp] lemma panels_setView (i : Nat) (memory : σ) (w : Wizard σ) :
    (w.setView i memory).panels = w.panels := by
  refine List.ext_getElem? fun j => ?_
  simp only [panels, setView, List.getElem?_map, List.getElem?_modify]
  cases w.slots[j]? with
  | none => rfl
  | some slot => by_cases h : i = j <;> simp [h]

/-- A view that is given another memory stays where it is. -/
lemma samePlace_setView (i : Nat) (memory : σ) (w : Wizard σ) :
    SamePlace w (w.setView i memory) :=
  ⟨panels_setView i memory w, rfl⟩

lemma getElem?_slots_setView (i : Nat) (memory : σ) (w : Wizard σ) (j : Nat) :
    (w.setView i memory).slots[j]? =
      (w.slots[j]?).map fun slot => if i = j then { slot with view? := some memory } else slot := by
  rw [setView, List.getElem?_modify]
  by_cases h : i = j <;> simp [h]

@[simp] lemma panels_ofPanels (ps : List Panel) (env : Environment) :
    (ofPanels ps env : Wizard σ).panels = ps := by
  simp [ofPanels, panels, Function.comp_def]

lemma inBounds_ofPanels (ps : List Panel) (env : Environment) :
    (ofPanels ps env : Wizard σ).InBounds := by
  intro i hi
  cases hi

/-- The visited positions are those of the marked panels. -/
lemma mem_visitedPositions {i : Nat} :
    i ∈ w.visitedPositions ↔ ∃ p, w.panel? i = some p ∧ p.visited = true := by
  unfold visitedPositions
  rw [List.mem_filter, List.mem_range, Option.any_eq_true]
  constructor
  · rintro ⟨-, h⟩
    exact h
  · rintro ⟨p, hp, hvisited⟩
    refine ⟨?_, p, hp, hvisited⟩
    rw [size_eq]
    exact List.getElem?_eq_some_iff.mp hp |>.1

lemma SamePlace.visitedPositions (h : SamePlace w w') :
    w'.visitedPositions = w.visitedPositions := by
  unfold Wizard.visitedPositions
  rw [h.size]
  exact List.filter_congr fun i _ => by rw [h.panel?]

/-! ### Arriving at a panel -/

/-- The wizard after a panel has been entered. -/
def arrive (old? : Option Nat) (new : Nat) (w : Wizard σ) : Wizard σ :=
  (w.mark old? new).setIndex (some new)

lemma getElem?_slots_mapPanels (f : Nat → Panel → Panel) (w : Wizard σ) (i : Nat) :
    (w.mapPanels f).slots[i]? =
      (w.slots[i]?).map fun slot => { slot with panel := f i slot.panel } := by
  simp [mapPanels]

lemma mapPanels_mapPanels (f g : Nat → Panel → Panel) (w : Wizard σ) :
    (w.mapPanels f).mapPanels g = w.mapPanels fun i p => g i (f i p) := by
  simp [mapPanels, Function.comp_def]

/-- The panel at `i` stays marked when `new` is entered, unless that leads back past it. -/
def keepsMark (old? : Option Nat) (new i : Nat) : Bool :=
  !(old?.any (fun old => new < old) && decide (new < i))

lemma keepsMark_iff {old? : Option Nat} {new i : Nat} :
    keepsMark old? new i = true ↔ ∀ old, old? = some old → old ≤ new ∨ i ≤ new := by
  cases old? with
  | none => simp [keepsMark]
  | some old => simp [keepsMark]

/-- Entering a panel marks it, and entering it from behind takes the marks after it away. -/
lemma arrive_eq (old? : Option Nat) (new : Nat) (w : Wizard σ) :
    arrive old? new w =
      { w.mapPanels fun i p =>
          { p with visited := i = new || (p.visited && keepsMark old? new i) } with
        index? := some new } := by
  -- Without a move back past it, a panel keeps its mark.
  have hforward (hkeeps : ∀ i, keepsMark old? new i = true) :
      (fun i (p : Panel) => if i = new then { p with visited := true } else p) =
        fun i p => { p with visited := i = new || (p.visited && keepsMark old? new i) } := by
    funext i p
    by_cases h : i = new <;> simp [h, hkeeps]
  cases old? with
  | none =>
    have hkeeps (i : Nat) : keepsMark none new i = true := rfl
    simp only [arrive, mark, setIndex, hforward hkeeps]
  | some old =>
    by_cases hback : new < old
    · have hmark : (fun i (p : Panel) => if i = new
            then { if new < i then { p with visited := false } else p with visited := true }
            else if new < i then { p with visited := false } else p) =
          fun i p =>
            { p with visited := i = new || (p.visited && keepsMark (some old) new i) } := by
        funext i p
        by_cases h : i = new
        · simp [h]
        · by_cases h' : new < i <;> simp [h, h', hback, keepsMark]
      simp only [arrive, mark, setIndex, hback, if_true, mapPanels_mapPanels, hmark]
    · have hkeeps (i : Nat) : keepsMark (some old) new i = true := by simp [keepsMark, hback]
      simp only [arrive, mark, setIndex, hback, if_false, hforward hkeeps]

section Arrive

variable (old? : Option Nat) (new : Nat) (w : Wizard σ)

@[simp] lemma index?_arrive : (arrive old? new w).index? = some new := rfl

@[simp] lemma env_arrive : (arrive old? new w).env = w.env := by
  rw [arrive_eq]
  rfl

@[simp] lemma navigation_arrive : (arrive old? new w).navigation = w.navigation := by
  rw [arrive_eq]
  rfl

@[simp] lemma size_arrive : (arrive old? new w).size = w.size := by
  rw [arrive_eq]
  exact List.length_mapIdx

lemma getElem?_slots_arrive (i : Nat) :
    (arrive old? new w).slots[i]? = (w.slots[i]?).map fun slot =>
      let visited := i = new || (slot.panel.visited && keepsMark old? new i)
      { slot with panel := { slot.panel with visited := visited } } := by
  rw [arrive_eq]
  dsimp only
  rw [getElem?_slots_mapPanels]

end Arrive

lemma panel?_arrive (old? : Option Nat) (new i : Nat) (w : Wizard σ) :
    (arrive old? new w).panel? i = (w.panel? i).map fun p =>
      { p with visited := i = new || (p.visited && keepsMark old? new i) } := by
  rw [panel?_eq, panel?_eq, getElem?_slots_arrive, Option.map_map, Option.map_map]
  rfl

/-- Arriving at a panel adds it to the visited ones and drops those that lose their marks. -/
lemma mem_visitedPositions_arrive {old? : Option Nat} {new i : Nat} (hnew : new < w.size) :
    i ∈ (arrive old? new w).visitedPositions ↔
      i = new ∨ (i ∈ w.visitedPositions ∧ keepsMark old? new i = true) := by
  simp only [mem_visitedPositions, panel?_arrive, Option.map_eq_some_iff]
  constructor
  · rintro ⟨_, ⟨p, hp, rfl⟩, hvisited⟩
    simp only [Bool.or_eq_true, decide_eq_true_eq, Bool.and_eq_true] at hvisited
    rcases hvisited with rfl | ⟨hvisited, hkeeps⟩
    · exact .inl rfl
    · exact .inr ⟨⟨p, hp, hvisited⟩, hkeeps⟩
  · rintro (rfl | ⟨⟨p, hp, hvisited⟩, hkeeps⟩)
    · obtain ⟨p, hp⟩ : ∃ p, w.panel? i = some p :=
        ⟨_, List.getElem?_eq_getElem (size_eq w ▸ hnew)⟩
      exact ⟨_, ⟨p, hp, rfl⟩, by simp⟩
    · exact ⟨_, ⟨p, hp, rfl⟩, by simp [hvisited, hkeeps]⟩

end Wizard

end SetupWizard
