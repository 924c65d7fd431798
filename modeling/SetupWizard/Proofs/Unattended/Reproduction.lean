/-
# Replaying the record of a run

The record of a run can be the source of answers for another run.  In it each variable has one
value, the one that it had in the end, also where several panels were given different answers.
As long as they were not, the other run takes the same course and writes the same record again;
and whenever it visits the same panels, it writes the same record.
-/
import Mathlib.Data.List.Sort
import SetupWizard.Proofs.Definition.Check
import SetupWizard.Proofs.Unattended.Answers
import SetupWizard.Proofs.Unattended.Run

namespace SetupWizard

/-- No two of the panels have different answers for one variable. -/
def Replay.Consistent (R : List PanelRecord) (panels : List String) : Prop :=
  ∀ p ∈ panels, ∀ q ∈ panels, ∀ n a b : String,
    (answersOf R p)[n]? = some a → (answersOf R q)[n]? = some b → a = b

namespace Course

variable {d : Definition} {answers : String → Texts} {x : Course}

/-! ### The entries of a record -/

lemma panel_of_entryAt? {i : Nat} {r : PanelRecord} (h : x.entryAt? d answers i = some r) :
    ∃ p, d.panels[i]? = some p ∧
      r = ⟨p.id, Replay.currentValues (answers p.id) x.env.store⟩ := by
  obtain ⟨p, hp, hr⟩ := Option.map_eq_some_iff.mp h
  exact ⟨p, hp, hr.symm⟩

lemma map_panel_record (d : Definition) (answers : String → Texts) (x : Course) :
    (x.record d answers).map PanelRecord.panel =
      (x.recorded d).filterMap fun i => (d.panels[i]?).map Panel.id := by
  rw [record, List.map_filterMap]
  congr 1
  funext i
  rw [entryAt?, Option.map_map]
  rfl

/-- A list, position by position. -/
lemma filterMap_range_getElem? {α β : Type} (f : α → β) (l : List α) :
    ((List.range l.length).filterMap fun i => (l[i]?).map f) = l.map f := by
  induction l with
  | nil => rfl
  | cons a l ih =>
    simp only [List.length_cons, List.range_succ_eq_map, List.filterMap_cons,
      List.getElem?_cons_zero, Option.map_some, List.filterMap_map, List.map_cons]
    rw [← ih]
    rfl

/-- A record has one entry for each of its panels. -/
lemma nodup_map_panel_record (hd : d.check = .ok ()) :
    ((x.record d answers).map PanelRecord.panel).Nodup := by
  have hsublist : (x.recorded d).Sublist (List.range d.panels.length) := List.filter_sublist
  have hids := hsublist.filterMap fun i => (d.panels[i]?).map Panel.id
  rw [filterMap_range_getElem?] at hids
  rw [map_panel_record]
  exact hids.nodup (Definition.nodup_ids_of_check hd)

/-- The data of an entry are the values that the variables have in the end. -/
lemma answersOf_record (hd : d.check = .ok ()) {r : PanelRecord} (hr : r ∈ x.record d answers) :
    Replay.answersOf (x.record d answers) r.panel =
      Replay.currentValues (answers r.panel) x.env.store := by
  rw [Replay.answersOf_of_mem (nodup_map_panel_record hd) hr]
  obtain ⟨i, -, hentry⟩ := List.mem_filterMap.mp hr
  obtain ⟨p, -, rfl⟩ := panel_of_entryAt? hentry
  rfl

/-- In a record each variable has one value. -/
lemma getElem?_answersOf_record (hd : d.check = .ok ()) {id n a : String}
    (h : (Replay.answersOf (x.record d answers) id)[n]? = some a) :
    x.env.store.get? n = some a := by
  by_cases hid : id ∈ (x.record d answers).map PanelRecord.panel
  · obtain ⟨r, hr, rfl⟩ := List.mem_map.mp hid
    rw [answersOf_record hd hr, Replay.getElem?_currentValues] at h
    obtain ⟨_, -, hvalue⟩ := Option.bind_eq_some_iff.mp h
    exact hvalue
  · rw [Replay.answersOf_of_not_mem hid, Std.ExtTreeMap.getElem?_empty] at h
    cases h

/-- A record is consistent, whatever the answers were. -/
lemma consistent_record (hd : d.check = .ok ()) (panels : List String) :
    Replay.Consistent (x.record d answers) panels := by
  intro p _ q _ n a b ha hb
  have ha' := getElem?_answersOf_record hd ha
  have hb' := getElem?_answersOf_record hd hb
  exact Option.some.inj (ha'.symm.trans hb')

lemma mem_record_of_mem_trail {i : Nat} {p : Panel} (hi : i ∈ x.trail)
    (hp : d.panels[i]? = some p) :
    ⟨p.id, Replay.currentValues (answers p.id) x.env.store⟩ ∈ x.record d answers :=
  List.mem_filterMap.mpr ⟨i, mem_recorded_of_mem_trail hi hp, entryAt?_of_panel hp⟩

/-! ### Answers from a record -/

lemma exists_panel_of_dataAt {i : Nat} {n a : String} (h : (d.dataAt answers i)[n]? = some a) :
    ∃ p, d.panels[i]? = some p ∧ (answers p.id)[n]? = some a := by
  unfold Definition.dataAt at h
  cases hp : d.panels[i]? with
  | none =>
    rw [hp, Std.ExtTreeMap.getElem?_empty] at h
    cases h
  | some p =>
    rw [hp] at h
    exact ⟨p, rfl, h⟩

/-- What a panel on the trail gives has been given. -/
lemma exists_given? {trail : List Nat} {i : Nat} {n a : String} (hi : i ∈ trail)
    (ha : (d.dataAt answers i)[n]? = some a) :
    ∃ b, d.given? answers trail n = some b ∧
      ∃ j ∈ trail, (d.dataAt answers j)[n]? = some b := by
  have hsome : (d.given? answers trail n).isSome := by
    rw [Definition.given?, List.findSome?_isSome_iff]
    exact ⟨i, List.mem_reverse.mpr hi, ha ▸ rfl⟩
  obtain ⟨b, hb⟩ := Option.isSome_iff_exists.mp hsome
  obtain ⟨j, hj, hjb⟩ := List.exists_of_findSome?_eq_some hb
  exact ⟨b, hb, j, List.mem_reverse.mp hj, hjb⟩

/-- What the panels on the trail of a course give in a replay of its record are the values that
the variables have in the end. -/
lemma getElem?_dataAt_record (hd : d.check = .ok ()) {i : Nat} {n a : String}
    (h : (d.dataAt (Replay.answersOf (x.record d answers)) i)[n]? = some a) :
    x.env.store.get? n = some a := by
  obtain ⟨p, -, ha⟩ := exists_panel_of_dataAt h
  exact getElem?_answersOf_record hd ha

/-- With consistent answers the record gives each panel on the trail what it was given before. -/
lemma dataAt_record {R : List PanelRecord} (hd : d.check = .ok ())
    (hkeeps : Keeps d (Replay.answersOf R) x)
    (hconsistent : Replay.Consistent R
      ((x.record d (Replay.answersOf R)).map PanelRecord.panel)) {i : Nat} (hi : i ∈ x.trail) :
    d.dataAt (Replay.answersOf (x.record d (Replay.answersOf R))) i =
      d.dataAt (Replay.answersOf R) i := by
  cases hp : d.panels[i]? with
  | none => rw [Definition.dataAt, Definition.dataAt, hp]
  | some p =>
    have hmem (j : Nat) (q : Panel) (hj : j ∈ x.trail) (hq : d.panels[j]? = some q) :
        q.id ∈ (x.record d (Replay.answersOf R)).map PanelRecord.panel :=
      List.mem_map_of_mem (mem_record_of_mem_trail hj hq)
    have hentry : ⟨p.id, _⟩ ∈ x.record d (Replay.answersOf R) := mem_record_of_mem_trail hi hp
    rw [dataAt_of_panel hp, dataAt_of_panel hp, answersOf_record hd hentry]
    refine Std.ExtTreeMap.ext_getElem? fun {n} => ?_
    rw [Replay.getElem?_currentValues]
    cases ha : (Replay.answersOf R p.id)[n]? with
    | none => rfl
    | some a =>
      have hdata : (d.dataAt (Replay.answersOf R) i)[n]? = some a := by
        rw [dataAt_of_panel hp, ha]
      -- The value in the end is one that some panel on the trail gave, and so it is this one.
      obtain ⟨b, hgiven, j, hj, hb⟩ := exists_given? hi hdata
      obtain ⟨q, hq, hb⟩ := exists_panel_of_dataAt hb
      have hab : a = b := hconsistent _ (hmem i p hi hp) _ (hmem j q hj hq) n a b ha hb
      rw [Option.bind_some, (hkeeps n b hgiven).2, hab]

/-- The record of a course, made once more with the data of the record. -/
lemma record_record (hd : d.check = .ok ()) :
    x.record d (Replay.answersOf (x.record d answers)) = x.record d answers := by
  refine List.filterMap_congr fun i hi => ?_
  cases hp : d.panels[i]? with
  | none =>
    rw [entryAt?, entryAt?, hp]
    rfl
  | some p =>
    have hmem : ⟨p.id, Replay.currentValues (answers p.id) x.env.store⟩ ∈ x.record d answers :=
      List.mem_filterMap.mpr ⟨i, hi, entryAt?_of_panel hp⟩
    rw [entryAt?_of_panel hp, entryAt?_of_panel hp, answersOf_record hd hmem,
      Replay.currentValues_currentValues]

/-! ### The panels of a record -/

/-- If the definition calls no panel visited, the panels that have been entered are recorded. -/
lemma recorded_of_unvisited (hunvisited : ∀ p ∈ d.panels, p.visited = false)
    (h : Ascends d x) : x.recorded d = x.trail := by
  have hsorted : (x.recorded d).Pairwise (· < ·) :=
    List.pairwise_lt_range.sublist List.filter_sublist
  -- Both lists are sorted, so it is enough that they have the same members.
  refine hsorted.eq_of_mem_iff h.sorted fun i => ?_
  rw [recorded, List.mem_filter, List.mem_range]
  constructor
  · rintro ⟨hi, hrecorded⟩
    have hp : d.panels[i]? = some d.panels[i] := List.getElem?_eq_getElem hi
    rw [hp, Option.any_some, hunvisited _ (List.getElem_mem hi), Bool.false_or] at hrecorded
    exact List.contains_iff_mem.mp hrecorded
  · intro hi
    refine ⟨h.bounded i hi, ?_⟩
    rw [List.contains_iff_mem.mpr hi, Bool.or_true]

/-- Panels with distinct ids are known by their ids. -/
lemma eq_of_ids_eq (hnodup : (d.panels.map Panel.id).Nodup) {is js : List Nat}
    (his : ∀ i ∈ is, i < d.panels.length) (hjs : ∀ j ∈ js, j < d.panels.length)
    (h : (is.filterMap fun i => (d.panels[i]?).map Panel.id) =
      js.filterMap fun i => (d.panels[i]?).map Panel.id) : is = js := by
  have hid {i : Nat} (hi : i < d.panels.length) :
      (d.panels[i]?).map Panel.id = some d.panels[i].id := by
    rw [List.getElem?_eq_getElem hi]
    rfl
  induction is generalizing js with
  | nil =>
    cases js with
    | nil => rfl
    | cons j js =>
      simp only [List.filterMap_cons, hid (hjs j List.mem_cons_self)] at h
      cases h
  | cons i is ih =>
    have hi := his i List.mem_cons_self
    cases js with
    | nil =>
      simp only [List.filterMap_cons, hid hi] at h
      cases h
    | cons j js =>
      have hj := hjs j List.mem_cons_self
      simp only [List.filterMap_cons, hid hi, hid hj] at h
      obtain ⟨hhead, htail⟩ := List.cons.inj h
      have hij : i = j := by
        have hlength : (d.panels.map Panel.id).length = d.panels.length := List.length_map Panel.id
        have hsame : (d.panels.map Panel.id)[i]? = (d.panels.map Panel.id)[j]? := by
          rw [List.getElem?_map, List.getElem?_map, hid hi, hid hj, hhead]
        exact (List.getElem?_inj (hlength ▸ hi) hnodup).mp hsame
      have hrest : is = js := ih (fun k hk => his k (List.mem_cons_of_mem i hk))
        (fun k hk => hjs k (List.mem_cons_of_mem j hk)) htail
      rw [hij, hrest]

/-- The panels of the records of two courses are the same only if their trails are. -/
lemma trail_eq_of_panels {answers' : String → Texts} {y : Course} (hd : d.check = .ok ())
    (hunvisited : ∀ p ∈ d.panels, p.visited = false) (hx : Ascends d x) (hy : Ascends d y)
    (h : (y.record d answers').map PanelRecord.panel =
      (x.record d answers).map PanelRecord.panel) : y.trail = x.trail := by
  rw [map_panel_record, map_panel_record, recorded_of_unvisited hunvisited hx,
    recorded_of_unvisited hunvisited hy] at h
  exact eq_of_ids_eq (Definition.nodup_ids_of_check hd) hy.bounded hx.bounded h

/-- Courses that have entered the same panels have the same record if the data of these panels
are the same in the end. -/
lemma record_congr {answers' : String → Texts} {y : Course}
    (hunvisited : ∀ p ∈ d.panels, p.visited = false) (hx : Ascends d x)
    (htrail : y.trail = x.trail)
    (hdata : ∀ i ∈ x.trail, ∀ p, d.panels[i]? = some p →
      Replay.currentValues (answers' p.id) y.env.store =
        Replay.currentValues (answers p.id) x.env.store) :
    y.record d answers' = x.record d answers := by
  have hrecorded : y.recorded d = x.recorded d := by
    rw [recorded, recorded, htrail]
  rw [record, record, hrecorded, recorded_of_unvisited hunvisited hx]
  refine List.filterMap_congr fun i hi => ?_
  cases hp : d.panels[i]? with
  | none =>
    rw [entryAt?, entryAt?, hp]
    rfl
  | some p => rw [entryAt?_of_panel hp, entryAt?_of_panel hp, hdata i hi p hp]

/-- Whoever has entered the same panels with the same answers has the same record. -/
lemma record_eq_of_keeps {y : Course} (hunvisited : ∀ p ∈ d.panels, p.visited = false)
    (hx : Ascends d x) (hkeepsx : Keeps d answers x) (hkeepsy : Keeps d answers y)
    (htrail : y.trail = x.trail) : y.record d answers = x.record d answers := by
  refine record_congr hunvisited hx htrail fun i hi p hp => ?_
  refine Std.ExtTreeMap.ext_getElem? fun {n} => ?_
  rw [Replay.getElem?_currentValues, Replay.getElem?_currentValues]
  cases ha : (answers p.id)[n]? with
  | none => rfl
  | some a =>
    have hdata : (d.dataAt answers i)[n]? = some a := by
      rw [dataAt_of_panel hp, ha]
    obtain ⟨b, hgiven, -⟩ := exists_given? hi hdata
    rw [Option.bind_some, Option.bind_some, (hkeepsx n b hgiven).2,
      (hkeepsy n b (htrail ▸ hgiven)).2]

/-- A replay that has entered the same panels has the same record. -/
lemma record_eq_of_trail {y : Course} (hd : d.check = .ok ())
    (hunvisited : ∀ p ∈ d.panels, p.visited = false) (hx : Ascends d x)
    (hy : Keeps d (Replay.answersOf (x.record d answers)) y) (htrail : y.trail = x.trail) :
    y.record d (Replay.answersOf (x.record d answers)) = x.record d answers := by
  refine record_congr hunvisited hx htrail fun i hi p hp => ?_
  have hentry : ⟨p.id, _⟩ ∈ x.record d answers := mem_record_of_mem_trail hi hp
  rw [answersOf_record hd hentry]
  refine Std.ExtTreeMap.ext_getElem? fun {n} => ?_
  rw [Replay.getElem?_currentValues]
  cases ha : (Replay.currentValues (answers p.id) x.env.store)[n]? with
  | none => rfl
  | some a =>
    have hgives : (d.dataAt (Replay.answersOf (x.record d answers)) i)[n]? = some a := by
      rw [dataAt_of_panel hp, answersOf_record hd hentry, ha]
    -- In a record each variable has one value, whichever panel gives it last in the replay.
    obtain ⟨b, hgiven, j, -, hb⟩ := exists_given? (htrail ▸ hi) hgives
    have hab := (getElem?_dataAt_record hd hgives).symm.trans (getElem?_dataAt_record hd hb)
    rw [Option.bind_some, (hy n b hgiven).2, hab]

end Course

namespace Unattended

open Course

variable {d : Definition} {R written : List PanelRecord} {validate : Bool}

/-- **With consistent answers a replay takes the same course.** -/
lemma course_of_consistent (h : record d R validate = .ok written)
    (hconsistent : Replay.Consistent R (written.map PanelRecord.panel)) :
    course d written validate = course d R validate := by
  obtain ⟨hd, -, rfl⟩ := record_eq_ok_iff.mp h
  exact (attuned_proceed validate (Replay.answersOf R) (start d)).2 _ fun i hi =>
    dataAt_record hd (keeps_proceed d _ validate) hconsistent hi

lemma record_of_consistent (h : record d R validate = .ok written)
    (hconsistent : Replay.Consistent R (written.map PanelRecord.panel)) :
    record d written validate = .ok written := by
  have hcourse := course_of_consistent h hconsistent
  obtain ⟨hd, hresult, hwritten⟩ := record_eq_ok_iff.mp h
  refine record_eq_ok_iff.mpr ⟨hd, hcourse ▸ hresult, ?_⟩
  rw [hcourse, ← hwritten]
  exact record_record hd

/-- The answers of a record that a run has written are consistent. -/
lemma consistent_of_record {R₀ : List PanelRecord} {v : Bool} (h : record d R₀ v = .ok R)
    (panels : List String) : Replay.Consistent R panels := by
  obtain ⟨hd, -, rfl⟩ := record_eq_ok_iff.mp h
  exact consistent_record hd panels

/-- A replay that visits the same panels writes the same record. -/
lemma record_of_same_panels (hunvisited : ∀ p ∈ d.panels, p.visited = false)
    (h : record d R validate = .ok written) {again : List PanelRecord}
    (hagain : record d written validate = .ok again)
    (hpanels : again.map PanelRecord.panel = written.map PanelRecord.panel) : again = written := by
  obtain ⟨hd, -, rfl⟩ := record_eq_ok_iff.mp h
  obtain ⟨-, -, rfl⟩ := record_eq_ok_iff.mp hagain
  have hx : Ascends d (course d R validate).state := ascends_proceed d _ validate
  have htrail := trail_eq_of_panels hd hunvisited hx (ascends_proceed d _ validate) hpanels
  exact record_eq_of_trail hd hunvisited hx (keeps_proceed d _ validate) htrail

/-- **Replaying the record of a run.**  Let a run with some answers write a record.  If none of
the recorded panels had different answers for one variable, then a run with the answers of the
record, under the same flag, comes to its end as well and writes the same record again.  This is
so in particular if the answers were the record of a run themselves.  And in any case, if a run
with the answers of the record writes one with the same panels, then it is the same record. -/
theorem record_of_written (h : record d R validate = .ok written) :
    (Replay.Consistent R (written.map PanelRecord.panel) ∨ (∃ R₀ v, record d R₀ v = .ok R) →
      record d written validate = .ok written) ∧
    ((∀ p ∈ d.panels, p.visited = false) → ∀ again, record d written validate = .ok again →
      again.map PanelRecord.panel = written.map PanelRecord.panel → again = written) := by
  constructor
  · rintro (hconsistent | ⟨R₀, v, hR⟩)
    · exact record_of_consistent h hconsistent
    · exact record_of_consistent h (consistent_of_record hR _)
  · intro hunvisited again hagain hpanels
    exact record_of_same_panels hunvisited h hagain hpanels

/-- A definition with a panel that is only shown while the variable `X` is `1`. -/
def conditionalPanel : Definition where
  conditions := [.equals "one" "X" "1"]
  panels := [{ id := "a", className := "Input" },
    { id := "m", className := "Text", condition? := some "one" },
    { id := "b", className := "Input" }]

/-- The answers `1` for the first panel of this definition, and `1` again for the last one. -/
theorem record_of_agreement :
    let R : List PanelRecord :=
      [⟨"a", .ofList [("X", "1")]⟩, ⟨"m", ∅⟩, ⟨"b", .ofList [("X", "1")]⟩]
    record conditionalPanel R true = .ok R ∧ (∃ R₀ v, record conditionalPanel R₀ v = .ok R) ∧
      record conditionalPanel R true = .ok R := by
  intro R
  have hR : record conditionalPanel R true = .ok R := by decide +kernel
  have hwritten : ∃ R₀ v, record conditionalPanel R₀ v = .ok R := ⟨R, true, hR⟩
  exact ⟨hR, hwritten, (record_of_written hR).1 (.inr hwritten)⟩

/-- The answers `1` for the first panel of this definition, but `2` for the last one: the record
has the value `2` for both, so that a replay does not show the panel between them. -/
theorem record_of_conflict :
    let R : List PanelRecord := [⟨"a", .ofList [("X", "1")]⟩, ⟨"b", .ofList [("X", "2")]⟩]
    let written : List PanelRecord :=
      [⟨"a", .ofList [("X", "2")]⟩, ⟨"m", ∅⟩, ⟨"b", .ofList [("X", "2")]⟩]
    let again : List PanelRecord := [⟨"a", .ofList [("X", "2")]⟩, ⟨"b", .ofList [("X", "2")]⟩]
    conditionalPanel.check = .ok () ∧ record conditionalPanel R true = .ok written ∧
      record conditionalPanel written true = .ok again ∧ again ≠ written := by
  decide +kernel

end Unattended

end SetupWizard
