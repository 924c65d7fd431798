/-
# Unattended runs as courses

The wizard of an unattended run follows the course of the run, phase by phase and move by move,
to the end and into the record.  The main statement is `follows_proceed`.  With it a run is a
matter of its course alone (`Unattended.record_eq`).
-/
import SetupWizard.Proofs.Unattended.Following

namespace SetupWizard

open Attempt

namespace Course

variable {d : Definition} {R : List PanelRecord} {w w' : Wizard Texts} {x x' : Course}

/-! ### The phases of a move -/

lemma follows_approve (validate : Bool) (h : Follows d R w x) :
    Agrees d R (Wizard.approve (Unattended.toolkit d R) validate w) (approve d validate x) := by
  cases validate with
  | false => exact .pure true h
  | true =>
    show Agrees d R (Wizard.isValid (Unattended.toolkit d R) w) (check d x)
    rw [Wizard.isValid, check, Attempt.get_bind, Attempt.get_bind, h.index]
    cases hat : x.at? with
    | none => exact .pure true h
    | some i => exact follows_validateAt h (h.size ▸ h.inBounds i hat)

lemma follows_depart (validated : Bool) (h : Follows d R w x) {i : Nat} (hi : i < w.size) :
    Agrees d R (Wizard.depart (Unattended.toolkit d R) i validated w)
      ((if validated then pure () else refresh : Attempt Event Course Unit) x) := by
  obtain ⟨p, hp⟩ := h.exists_panel hi
  cases validated with
  | true => exact follows_turn modest_save .saving h hp
  | false =>
    have hcommit := follows_turn_refresh (fun _ => pure true) (pure true) (fun _ _ => rfl)
      .committing h hp fun env => rfl
    rw [← funext commit_replay] at hcommit
    have hcourse : (refresh : Attempt Event Course Unit) =
        (do let _ ← (do refresh; pure true : Attempt Event Course Bool); pure ()) := by
      rw [bind_assoc]
      simp only [pure_bind, bind_pure_unit]
    rw [Wizard.depart]
    simp only [Bool.false_eq_true, if_false]
    rw [hcourse]
    exact Agrees.bind hcommit fun _ w' x' h' _ _ _ => .pure () h'

lemma follows_contribute {new : Nat} (validated : Bool) (h : Follows d R w x)
    (hforward : Wizard.isForward x.at? new = true) :
    Agrees d R (Wizard.contribute (Unattended.toolkit d R) x.at? new validated w)
      (contribute validated x) := by
  unfold Wizard.contribute contribute
  rw [Attempt.get_bind]
  cases hat : x.at? with
  | none => exact .pure () h
  | some old =>
    rw [hat] at hforward
    have hdepart := follows_depart validated h (h.size ▸ h.inBounds old hat)
    simp only [hforward, if_true]
    cases validated <;> exact hdepart

lemma follows_refresh (h : Follows d R w x) :
    Agrees d R (Wizard.refresh w) (refresh x) := by
  have hjournal : landmarks (.refreshed w.env :: List.map (fun e => .remarked (.evaluated e))
      w.env.evaluations) = [] := by
    have hremarks := landmarks_cons_remarked (.refreshed w.env)
      (w.env.evaluations.map Remark.evaluated)
    rw [List.map_map] at hremarks
    exact hremarks
  rw [Wizard.refresh_apply, refresh, h.env] at *
  cases hrefresh : x.env.refresh with
  | ok env =>
    have hfollows : Follows d R { w with env := env } { x with env := env } :=
      ⟨h.panel?, h.size, h.index, rfl, h.navigation, h.memory, h.inBounds⟩
    exact ⟨rfl, hfollows, hjournal⟩
  | error e => exact ⟨rfl, h, hjournal⟩

lemma follows_arrive {new : Nat} (h : Follows d R w x)
    (hforward : Wizard.isForward x.at? new = true) (hnew : new < d.panels.length) :
    Follows d R (Wizard.arrive x.at? new w) { x with trail := x.trail ++ [new] } := by
  -- A move forward takes no marks away, so the marks are those of the trail.
  have hkeeps (i : Nat) : Wizard.keepsMark x.at? new i = true := by
    refine Wizard.keepsMark_iff.mpr fun old hold => .inl ?_
    rw [hold] at hforward
    exact Nat.le_of_lt (of_decide_eq_true hforward)
  have hat : ({ x with trail := x.trail ++ [new] } : Course).at? = some new :=
    List.getLast?_concat
  refine ⟨fun i => ?_, ?_, hat.symm, (Wizard.env_arrive ..).trans h.env,
    (Wizard.navigation_arrive ..).trans h.navigation, fun {i panel memory} hslot => ?_, ?_⟩
  · rw [Wizard.panel?_arrive, h.panel?, Option.map_map]
    congr 1
    funext p
    by_cases hi : i = new <;> simp [mark, hkeeps, hi]
  · rw [Wizard.size_arrive, h.size]
  · rw [Wizard.getElem?_slots_arrive, Option.map_eq_some_iff] at hslot
    obtain ⟨⟨panel', view?⟩, hslot', hpanel⟩ := hslot
    cases hpanel
    have hmemory : memory = Replay.answersOf R panel'.id := h.memory hslot'
    exact hmemory
  · intro i hi
    rw [hat] at hi
    exact Option.some.inj hi ▸ hnew

/-- Leaving a panel is nothing that a course knows of. -/
lemma follows_leave (h : Follows d R w x) {old : Nat} (hold : old < w.size) :
    Agrees d R (Wizard.turn (Unattended.toolkit d R) .leaving old
      (fun stage => ofStep (Replay.hooks.deactivate stage)) w) ⟨.ok true, x, []⟩ := by
  obtain ⟨p, hp⟩ := h.exists_panel hold
  exact follows_turn modest_deactivate .leaving h hp

lemma follows_enter (h : Follows d R w x) {new : Nat} (hnew : new < w.size) :
    Agrees d R (Wizard.turn (Unattended.toolkit d R) .entering new
      (fun stage => ofStep (Replay.hooks.activate stage)) w)
      ((do activate d (Replay.answersOf R) new; return true : Attempt Event Course Bool) x) := by
  obtain ⟨p, hp⟩ := h.exists_panel hnew
  have hturn := follows_turn modest_activate .entering h hp
  have hsupply : d.supply (Replay.answersOf R) new x.env =
      x.env.mapStore (Replay.give (Replay.answersOf R p.id).toList p.id) := by
    rw [Definition.supply, hp]
  rw [bind_pure_apply, activate, hsupply]
  exact hturn

lemma follows_exchange (h : Follows d R w x) {new : Nat} (hnew : new < w.size) :
    Agrees d R (Wizard.exchange (Unattended.toolkit d R) x.at? new w)
      ((do activate d (Replay.answersOf R) new; return true : Attempt Event Course Bool) x) := by
  cases hat : x.at? with
  | none =>
    rw [Wizard.exchange_none]
    exact follows_enter h hnew
  | some old =>
    refine (follows_leave h (h.size ▸ h.inBounds old hat)).bind_quiet fun w' h' => ?_
    exact follows_enter h' (h'.size ▸ h.size ▸ hnew)

lemma follows_conclude {new : Nat} (h : Follows d R w x)
    (hforward : Wizard.isForward x.at? new = true) (hnew : new < d.panels.length) :
    Agrees d R (Wizard.conclude (Unattended.toolkit d R) x.at? new w)
      (enter d (Replay.answersOf R) new x) := by
  have hcourse : enter d (Replay.answersOf R) new = (do
      let agreed ← (do activate d (Replay.answersOf R) new; return true)
      if agreed then
        Attempt.modify fun x => { x with trail := x.trail ++ [new] }
        return true
      else return false) := by
    simp only [enter, bind_assoc, pure_bind, if_true]
  rw [hcourse]
  refine (follows_exchange h (h.size ▸ hnew)).bind fun agreed w' x' h' hagreed _ hx' => ?_
  -- Entering a panel has not moved the course yet.
  have hat : x'.at? = x.at? := by rw [← hx', bind_pure_apply]; rfl
  rw [← hat] at hforward ⊢
  cases agreed with
  | true => exact ⟨rfl, follows_arrive h' hforward hnew, rfl⟩
  | false => exact .pure false h'

/-! ### Moves -/

lemma isForward_of_mem_positionsAfter {old? : Option Nat} {i : Nat}
    (h : i ∈ d.positionsAfter old?) : Wizard.isForward old? i = true := by
  cases old? with
  | none => rfl
  | some old => exact decide_eq_true (lt_of_mem_positionsAfter h)

/-- A move to the panel that is offered next. -/
lemma follows_switchTo (validated : Bool) {new : Nat} (h : Follows d R w x)
    (htarget : x.target? d = some new) :
    Agrees d R (Wizard.switchTo (Unattended.toolkit d R) new validated w)
      (stride d (Replay.answersOf R) validated new x) := by
  have hmem := mem_positionsAfter_of_target htarget
  have hforward := isForward_of_mem_positionsAfter hmem
  have hnew := lt_length_of_mem_positionsAfter hmem
  have hgate : Agrees d R (Wizard.gate (Unattended.toolkit d R) x.at? new w) ⟨.ok true, x, []⟩ := by
    have henabled := follows_isNextEnabled h
    rw [htarget] at henabled
    rw [Wizard.gate, hforward]
    exact henabled
  rw [Wizard.switchTo_eq, Attempt.get_bind, if_neg (by rw [h.size]; omega), h.index]
  refine hgate.bind_quiet fun w₁ h₁ => ?_
  refine (follows_contribute validated h₁ hforward).bind fun _ w₂ x₂ h₂ _ _ hx₂ => ?_
  refine (follows_refresh h₂).bind fun _ w₃ x₃ h₃ _ _ hx₃ => ?_
  have hat : x₃.at? = x.at? := by
    rw [at?, at?, ← hx₃, trail_refresh, ← hx₂, trail_contribute]
  rw [← hat] at hforward ⊢
  exact follows_conclude h₃ hforward hnew

lemma follows_next (validate : Bool) (h : Follows d R w x) :
    Agrees d R (Wizard.next (Unattended.toolkit d R) validate w)
      (next d (Replay.answersOf R) validate x) := by
  rw [Wizard.next_eq]
  refine (follows_approve validate h).bind fun approved w₁ x₁ h₁ _ _ _ => ?_
  cases approved with
  | false => exact .pure false h₁
  | true =>
    refine (follows_findNext h₁).bind_quiet fun w₂ h₂ => ?_
    show Agrees d R _ (stepForward d (Replay.answersOf R) validate x₁)
    rw [stepForward, Attempt.get_bind]
    cases htarget : x₁.target? d with
    | none => exact .pure false h₂
    | some i => exact follows_switchTo validate h₂ htarget

lemma follows_advance (validate : Bool) (limit : Nat) (h : Follows d R w x) :
    Agrees d R (Wizard.advance (Unattended.toolkit d R) validate limit w)
      (advance d (Replay.answersOf R) validate limit x) := by
  induction limit generalizing w x with
  | zero => exact .pure 0 h
  | succ limit ih =>
    refine (follows_next validate h).bind fun moved w₁ x₁ h₁ _ _ _ => ?_
    cases moved with
    | false => exact .pure 0 h₁
    | true => exact (ih h₁).bind fun moves w₂ x₂ h₂ _ _ _ => .pure (moves + 1) h₂

/-- **An unattended run follows its course.** -/
theorem follows_proceed (validate : Bool) (h : Follows d R w x) :
    Agrees d R (Unattended.proceed (Unattended.toolkit d R) validate w)
      (proceed d (Replay.answersOf R) validate x) := by
  rw [Unattended.proceed, Attempt.get_bind, h.size]
  refine (follows_advance validate _ h).bind fun _ w₁ x₁ h₁ _ _ _ => ?_
  refine (follows_hasNext h₁).bind_quiet fun w₂ h₂ => ?_
  rw [finish, Attempt.get_bind]
  cases (x₁.target? d).isSome with
  | true => exact .pure false h₂
  | false => exact follows_approve validate h₂

lemma follows_start (d : Definition) (R : List PanelRecord) :
    Follows d R d.wizard (start d) := by
  have hpanels : (d.wizard : Wizard Texts).panels = d.panels := Wizard.panels_ofPanels ..
  refine ⟨fun i => ?_, ?_, rfl, rfl, rfl, fun {i panel memory} hslot => ?_, fun i hi => ?_⟩
  · rw [Wizard.panel?, hpanels]
    have hmark : (start d).mark i = id := by
      funext p
      simp [mark, start]
    rw [hmark, Option.map_id, id]
  · rw [Wizard.size_eq, hpanels]
  · rw [Definition.wizard, Wizard.ofPanels, List.getElem?_map, Option.map_eq_some_iff] at hslot
    obtain ⟨p, -, hslot⟩ := hslot
    cases hslot
  · cases hi

/-! ### Records -/

lemma Follows.visitedPositions (h : Follows d R w x) : w.visitedPositions = x.recorded d := by
  rw [Wizard.visitedPositions, recorded, h.size]
  refine List.filter_congr fun i hi => ?_
  obtain ⟨p, hp⟩ := h.exists_panel (h.size ▸ List.mem_range.mp hi)
  rw [h.panel?, hp]
  rfl

/-- A panel that has been entered is recorded. -/
lemma mem_recorded_of_mem_trail {i : Nat} {p : Panel} (hi : i ∈ x.trail)
    (hp : d.panels[i]? = some p) : i ∈ x.recorded d := by
  have hlt : i < d.panels.length := (List.getElem?_eq_some_iff.mp hp).1
  refine List.mem_filter.mpr ⟨List.mem_range.mpr hlt, ?_⟩
  rw [List.contains_iff_mem.mpr hi, Bool.or_true]

lemma entryAt?_of_panel {answers : String → Texts} {i : Nat} {p : Panel}
    (hp : d.panels[i]? = some p) :
    x.entryAt? d answers i = some ⟨p.id, Replay.currentValues (answers p.id) x.env.store⟩ := by
  rw [entryAt?, hp]
  rfl

lemma follows_recordAt (h : Follows d R w x) {is : List Nat} (his : ∀ i ∈ is, i < w.size) :
    Agrees d R (Wizard.recordAt (Unattended.toolkit d R) is w)
      ⟨.ok (is.filterMap (x.entryAt? d (Replay.answersOf R))), x, []⟩ := by
  induction is generalizing w with
  | nil => exact .pure [] h
  | cons i is ih =>
    obtain ⟨p, hp⟩ := h.exists_panel (his i List.mem_cons_self)
    rw [List.filterMap_cons_some (entryAt?_of_panel hp)]
    refine (follows_turn (fun _ _ => ⟨rfl, rfl⟩) .recording h hp).bind_quiet fun w₁ h₁ => ?_
    rw [Wizard.recordOf_of_recorded_eq_nil rfl] at h₁
    have hsize : w₁.size = w.size := h₁.size.trans h.size.symm
    refine (ih h₁ fun j hj => hsize ▸ his j (List.mem_cons_of_mem i hj)).bind_quiet fun w₂ h₂ => ?_
    exact .pure _ h₂

lemma follows_installationRecord (h : Follows d R w x) :
    Agrees d R (Wizard.installationRecord (Unattended.toolkit d R) w)
      ⟨.ok (x.record d (Replay.answersOf R)), x, []⟩ := by
  rw [Wizard.installationRecord, Attempt.get_bind, Course.record, ← h.visitedPositions]
  exact follows_recordAt h fun i hi => Wizard.lt_size_of_mem_visitedPositions hi

lemma Follows.current? (h : Follows d R w x) :
    w.current?.map Panel.id = (x.at?.bind (d.panels[·]?)).map Panel.id := by
  rw [Wizard.current?, h.index]
  cases x.at? with
  | none => rfl
  | some i =>
    rw [Option.bind_some, Option.bind_some, h.panel?, Option.map_map]
    rfl

end Course

namespace Unattended

/-- The course of a run, up to its end or to where it stops. -/
def course (d : Definition) (R : List PanelRecord) (validate : Bool) :
    Report Event Course (Except Failure Bool) :=
  Course.proceed d (Replay.answersOf R) validate (Course.start d)

/-- When a run has come to its end, its record is there. -/
lemma installationRecord_of_run {d : Definition} {R : List PanelRecord} {validate : Bool}
    {w : Wizard Texts} (h : run d R validate = .ok w) :
    ∃ written, (Wizard.installationRecord (toolkit d R) w).result = .ok written := by
  have hagrees : Course.Agrees d R _ (course d R validate) :=
    Course.follows_proceed validate (Course.follows_start d R)
  rw [run, Definition.build] at h
  cases hcheck : d.check with
  | error defect =>
    rw [hcheck] at h
    cases h
  | ok _ =>
    simp only [hcheck] at h
    split at h
    · cases h
    · cases h
      exact ⟨_, (Course.follows_installationRecord hagrees.follows).result⟩
    · cases h

lemma record_of_run {d : Definition} {R written : List PanelRecord} {validate : Bool}
    {w : Wizard Texts} (h : run d R validate = .ok w)
    (hwritten : (Wizard.installationRecord (toolkit d R) w).result = .ok written) :
    record d R validate = .ok written := by
  simp only [record, h, hwritten]

lemma record_of_failed {d : Definition} {R : List PanelRecord} {validate : Bool} {e : RunError}
    (h : run d R validate = .error e) : record d R validate = .error e := by
  rw [record, h]

/-- **What a run comes to** is a matter of its course. -/
theorem record_eq (d : Definition) (R : List PanelRecord) (validate : Bool) :
    record d R validate =
      match d.check with
      | .error defect => .error (.unsound defect)
      | .ok () =>
        let report := course d R validate
        match report.result with
        | .error failure => .error (.failed failure)
        | .ok true => .ok (report.state.record d (Replay.answersOf R))
        | .ok false =>
          .error (.stopped ((report.state.at?.bind (d.panels[·]?)).map Panel.id)) := by
  have h : Course.Agrees d R _ (course d R validate) :=
    Course.follows_proceed validate (Course.follows_start d R)
  unfold record run Definition.build
  cases d.check with
  | error defect => rfl
  | ok _ =>
    dsimp only
    rw [h.result]
    cases (course d R validate).result with
    | error failure => rfl
    | ok finished =>
      cases finished with
      | true =>
        dsimp only
        rw [(Course.follows_installationRecord h.follows).result]
      | false =>
        dsimp only
        rw [h.follows.current?]

/-- A run that comes to its end writes the record of its course. -/
lemma record_eq_ok_iff {d : Definition} {R written : List PanelRecord} {validate : Bool} :
    record d R validate = .ok written ↔ d.check = .ok () ∧
      (course d R validate).result = .ok true ∧
      (course d R validate).state.record d (Replay.answersOf R) = written := by
  rw [record_eq]
  cases d.check with
  | error defect => simp
  | ok _ =>
    dsimp only
    cases (course d R validate).result with
    | error failure => simp
    | ok finished => cases finished <;> simp

end Unattended

end SetupWizard
