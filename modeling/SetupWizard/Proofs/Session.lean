/-
# Sessions

Whoever uses a wizard calls on it in any order: to move, to answer a question, to have a panel
validated, for the record, or to change a switch or the environment.  A *session* is what comes
of a list of calls.

Only moves that succeed change the place of a wizard, and they do so by arriving at their target
(`placed`).  From this follows what a whole session does to the place:

* `Reachable.inBounds`: the current panel is always one of the panels;
* `trail_of_session`: the visited panels are those that no later target lies in front of;
* `place_of_unsuccessful_move`: a move that does not succeed leaves the place alone.
-/
import Mathlib.Control.Monad.Basic
import SetupWizard.Proofs.Wizard.Origin

namespace SetupWizard

open Attempt

variable {σ : Type}

/-! ### Calls -/

/-- The ways to move a wizard. -/
inductive Move where
  | next (validate : Bool)
  | previous
  | goTo (id : String)
  | switchTo (index : Nat) (validate : Bool)

/-- The questions to a wizard that are answered by yes or no. -/
inductive Query where
  | hasNext
  | hasPrevious
  | isLast
  | isNextEnabled
  | isPreviousEnabled
  | isValid

/-- The calls on a wizard. -/
inductive Call where
  | move (m : Move)
  | ask (q : Query)
  /-- To have the data of a panel validated, or put into the store without validation. -/
  | act (index : Nat) (validate : Bool)
  | record
  | setNext (open' : Bool)
  | setPrevious (open' : Bool)
  | adjust (f : Environment → Environment)

/-- What a wizard answers to a call. -/
inductive Answer where
  | flag (b : Bool)
  | records (rs : List PanelRecord)
  | done

/-- The attempt that a move is. -/
def Move.perform (T : Crew σ) : Move → Attempt Event (Wizard σ) Bool
  | .next validate => Wizard.next T validate
  | .previous => Wizard.previous T
  | .goTo id => Wizard.goTo T id
  | .switchTo i validate => Wizard.switchTo T i validate

/-- The panels that a move can lead to. -/
def Move.LeadsTo (w : Wizard σ) : Move → Nat → Prop
  | .next _, i => i ∈ w.ahead
  | .previous, i => i ∈ w.behind
  | .goTo id, i => w.position? id = some i
  | .switchTo i _, j => j = i

/-- The attempt to answer a question. -/
def Query.perform (T : Crew σ) : Query → Attempt Event (Wizard σ) Bool
  | .hasNext => Wizard.hasNext T
  | .hasPrevious => Wizard.hasPrevious T
  | .isLast => Wizard.isLast T
  | .isNextEnabled => Wizard.isNextEnabled T
  | .isPreviousEnabled => Wizard.isPreviousEnabled T
  | .isValid => Wizard.isValid T

/-- The attempt that a call leads to. -/
def Call.perform (T : Crew σ) : Call → Attempt Event (Wizard σ) Answer
  | .move m => do return .flag (← m.perform T)
  | .ask q => do return .flag (← q.perform T)
  | .act i true => do return .flag (← Wizard.validateAt T i)
  | .act i false => do return .flag (← Wizard.commitAt T i)
  | .record => do return .records (← Wizard.installationRecord T)
  | .setNext open' => do
    Attempt.modify (Wizard.setNext open')
    return .done
  | .setPrevious open' => do
    Attempt.modify (Wizard.setPrevious open')
    return .done
  | .adjust f => do
    Attempt.modify (Wizard.mapEnv f)
    return .done

/-- A call with what came of it. -/
structure Exchange where
  /-- The call. -/
  call : Call
  /-- The answer, or the failure of the call. -/
  result : Except Failure Answer
  /-- What the wizard put down in its journal. -/
  journal : List Event

/-- The target of a move that succeeded: the panel that was entered last. -/
def Exchange.target? : Exchange → Option Nat
  | ⟨.move _, .ok (.flag true), js⟩ => (entered js).getLast?
  | _ => none

/-- The targets of the moves that succeeded, in order. -/
def targets (exchanges : List Exchange) : List Nat := exchanges.filterMap Exchange.target?

/-- What comes of one call. -/
def Call.exchange (T : Crew σ) (c : Call) (w : Wizard σ) : Exchange :=
  ⟨c, (c.perform T w).result, (c.perform T w).journal⟩

/-- What comes of a list of calls. -/
def session (T : Crew σ) : List Call → Step Exchange (Wizard σ) Unit
  | [] => pure ()
  | c :: cs => do
    let w ← Step.get
    Step.modify fun w => (c.perform T w).state
    Step.write (c.exchange T w)
    session T cs

section Session

variable (T : Crew σ) (c : Call) (cs : List Call) (w : Wizard σ)

@[simp] lemma session_nil : session T [] w = ⟨(), w, []⟩ := rfl

@[simp] lemma state_session_cons :
    (session T (c :: cs) w).state = (session T cs (c.perform T w).state).state := rfl

@[simp] lemma journal_session_cons :
    (session T (c :: cs) w).journal =
      c.exchange T w :: (session T cs (c.perform T w).state).journal := rfl

/-- The later calls go on where the earlier ones have led. -/
lemma session_append (later : List Call) :
    session T (cs ++ later) = (do
      session T cs
      session T later) := by
  induction cs with
  | nil => exact (pure_bind () fun _ => session T later).symm
  | cons c cs ih =>
    rw [List.cons_append, session, session, ih]
    simp only [bind_assoc]

end Session

@[simp] lemma targets_nil : targets [] = [] := rfl

lemma targets_cons (e : Exchange) (es : List Exchange) :
    targets (e :: es) = e.target?.toList ++ targets es := by
  cases h : e.target? with
  | none => exact List.filterMap_cons_none h
  | some i => exact List.filterMap_cons_some h

namespace Wizard

variable {T : Crew σ} {L : Law Event (Wizard σ)} {w w' : Wizard σ}

/-- What is true at the beginning and kept by every call is true after a session. -/
lemma session_induction {P : Wizard σ → Prop}
    (hstep : ∀ w c, P w → P (Call.perform T c w).state) (calls : List Call) (hw : P w) :
    P (session T calls w).state := by
  induction calls generalizing w with
  | nil => exact hw
  | cons c cs ih => exact ih (hstep w c hw)

/-- The states of wizards with a crew that calls can lead to. -/
def Reachable (T : Crew σ) (w : Wizard σ) : Prop :=
  ∃ panels env calls, w = (session T calls (ofPanels panels env)).state

/-! ### What a call does to the place -/

/-- Under a governing law a move ends in one of three ways. -/
lemma Governs.perform (h : Governs T L) (hw : w.InBounds) (m : Move) :
    Moved L w (m.LeadsTo w) (m.perform T w) := by
  cases m with
  | next validate => exact h.next hw
  | previous => exact h.previous hw
  | goTo id => exact h.goTo hw
  | switchTo i validate => exact h.switchTo hw

/-- Under a governing law a question is answered. -/
lemma Governs.ask (h : Governs T L) (hw : w.InBounds) (q : Query) : (q.perform T).Obeys L w := by
  cases q with
  | hasNext => exact h.hasNext
  | hasPrevious => exact h.hasPrevious hw
  | isLast => exact h.isLast
  | isNextEnabled => exact h.isNextEnabled
  | isPreviousEnabled => exact h.isPreviousEnabled hw
  | isValid => exact h.isValid hw

/-- What comes of a call to move is what comes of the move. -/
lemma exchange_move (T : Crew σ) (m : Move) (w : Wizard σ) :
    (Call.move m).exchange T w =
      ⟨.move m, (m.perform T w).result.map .flag, (m.perform T w).journal⟩ := by
  have h := bind_pure_apply (m.perform T) Answer.flag w
  exact congrArg (fun r : Report _ _ _ => Exchange.mk (.move m) r.result r.journal) h

lemma state_perform_move (T : Crew σ) (m : Move) (w : Wizard σ) :
    ((Call.move m).perform T w).state = (m.perform T w).state :=
  congrArg Report.state (bind_pure_apply (m.perform T) Answer.flag w)

/-- A move that succeeds has a target, and this is a panel that the move can lead to. -/
lemma exists_target (T : Crew σ) (hw : w.InBounds) {m : Move}
    (h : (m.perform T w).result = .ok true) :
    ∃ i, ((Call.move m).exchange T w).target? = some i ∧ m.LeadsTo w i := by
  have hmoved := (governs_accountable T).perform hw m
  rw [exchange_move]
  generalize m.perform T w = report at hmoved h
  cases hmoved with
  | stayed hok => cases h
  | failed herr => cases h
  | @arrived w' js new hleads _ hlast _ => exact ⟨new, hlast, hleads⟩

/-- What becomes of the place in a call with a target or without. -/
inductive Placed (w w' : Wizard σ) : Option Nat → Prop
  | stayed : SamePlace w w' → Placed w w' none
  | arrived {v : Wizard σ} {new : Nat} : new < w.size → SamePlace w v →
      w' = arrive w.index? new v → Placed w w' (some new)

/-- A turn to a panel that is not there changes nothing. -/
lemma state_turn_of_size_le {α : Type} {occasion : Occasion} {i : Nat}
    {act : Stage → Attempt Remark (Scene σ) α} (hi : w.size ≤ i) :
    (turn T occasion i act w).state = w := by
  have hnone : w.slots[i]? = none := List.getElem?_eq_none hi
  have hreach : reach T i w = ⟨.error (.panelIndex i w.size), w, []⟩ := by
    rw [reach_apply, hnone]
  rw [turn_of_failed_reach hreach]

/-- An attempt under a governing law keeps the place, however it ends. -/
lemma Governs.samePlace_of_obeys {α : Type} (h : Governs T L) {m : Attempt Event (Wizard σ) α}
    (hm : m.Obeys L w) : SamePlace w (m w).state := by
  rcases hr : m w with ⟨failure | a, w', js⟩
  · rw [Obeys, hr] at hm
    exact h.samePlace_of_err hm
  · rw [Obeys, hr] at hm
    exact h.samePlace hm

/-- Under a governing law a move that does not succeed keeps the place. -/
lemma Moved.samePlace (h : Governs T L) {P : Nat → Prop}
    {report : Report Event (Wizard σ) (Except Failure Bool)} (hmoved : Moved L w P report)
    (hresult : report.result ≠ .ok true) : SamePlace w report.state := by
  cases hmoved with
  | stayed hok => exact h.samePlace hok
  | failed herr => exact h.samePlace_of_err herr
  | arrived => exact absurd rfl hresult

/-- Where the caller names a panel that does not exist, its view is never reached. -/
lemma state_act_of_size_le (T : Crew σ) {i : Nat} (hi : w.size ≤ i) (validate : Bool) :
    ((Call.act i validate).perform T w).state = w := by
  cases validate with
  | true =>
    have h := congrArg Report.state (bind_pure_apply (validateAt T i) Answer.flag w)
    exact h.trans (state_turn_of_size_le hi)
  | false =>
    have h := congrArg Report.state (bind_pure_apply (commitAt T i) Answer.flag w)
    exact h.trans (state_turn_of_size_le hi)

/-- Validating a panel or committing its data keeps the place, even if there is no such panel. -/
lemma samePlace_act (T : Crew σ) (i : Nat) (validate : Bool) :
    SamePlace w ((Call.act i validate).perform T w).state := by
  have h := governs_accountable T
  by_cases hi : i < w.size
  · cases validate with
    | true => exact h.samePlace_of_obeys (.map _ (h.validate hi))
    | false => exact h.samePlace_of_obeys (.map _ (h.commit hi))
  · rw [state_act_of_size_le T (Nat.le_of_not_lt hi)]
    exact .refl w

/-- **Only a move that succeeds changes the place**, and it does so by arriving at its target. -/
lemma placed (T : Crew σ) (hw : w.InBounds) (c : Call) :
    Placed w (c.perform T w).state (c.exchange T w).target? := by
  have h := governs_accountable T
  cases c with
  | move m =>
    rw [exchange_move, state_perform_move]
    have hmoved := h.perform hw m
    generalize m.perform T w = report at hmoved
    cases hmoved with
    | stayed hok => exact .stayed hok
    | failed herr => exact .stayed herr.1
    | @arrived v js new _ hnew hlast hok =>
      have htarget : (⟨.move m, .ok (.flag true), js⟩ : Exchange).target? = some new := hlast
      exact htarget ▸ .arrived hnew hok rfl
  | ask q => exact .stayed (h.samePlace_of_obeys (.map _ (h.ask hw q)))
  | act i validate =>
    have htarget : ((Call.act i validate).exchange T w).target? = none := rfl
    exact htarget ▸ .stayed (samePlace_act T i validate)
  | record => exact .stayed (h.samePlace_of_obeys (.map _ h.installationRecord))
  | setNext open' => exact .stayed ⟨rfl, rfl⟩
  | setPrevious open' => exact .stayed ⟨rfl, rfl⟩
  | adjust f => exact .stayed ⟨rfl, rfl⟩

lemma Placed.inBounds {target? : Option Nat} (h : Placed w w' target?) (hw : w.InBounds) :
    w'.InBounds := by
  cases h with
  | stayed hplace => exact hplace.inBounds hw
  | @arrived v new hnew hplace harrive =>
    intro i hi
    rw [harrive, index?_arrive] at hi
    rw [harrive, size_arrive, hplace.size, ← Option.some.inj hi]
    exact hnew

lemma Placed.size {target? : Option Nat} (h : Placed w w' target?) : w'.size = w.size := by
  cases h with
  | stayed hplace => exact hplace.size
  | arrived _ hplace harrive => rw [harrive, size_arrive, hplace.size]

lemma inBounds_session (T : Crew σ) {calls : List Call} (hw : w.InBounds) :
    (session T calls w).state.InBounds :=
  session_induction (P := InBounds) (fun _ c hw => (placed T hw c).inBounds hw) calls hw

lemma size_session (T : Crew σ) {calls : List Call} (hw : w.InBounds) :
    (session T calls w).state.size = w.size := by
  have hstep (v : Wizard σ) (c : Call) (hv : v.InBounds ∧ v.size = w.size) :
      (c.perform T v).state.InBounds ∧ (c.perform T v).state.size = w.size :=
    ⟨(placed T hv.1 c).inBounds hv.1, (placed T hv.1 c).size.trans hv.2⟩
  exact (session_induction (P := fun v => v.InBounds ∧ v.size = w.size) hstep calls ⟨hw, rfl⟩).2

/-- The current panel of a wizard is one of its panels, whatever has been called on it. -/
lemma Reachable.inBounds (h : Reachable T w) : w.InBounds := by
  obtain ⟨panels, env, calls, rfl⟩ := h
  exact inBounds_session T (inBounds_ofPanels panels env)

/-! ### The trail -/

/-- A panel is marked by a list of targets when it is one of them and no later one lies in front
of it. -/
def Marked (ts : List Nat) (i : Nat) : Prop :=
  ∃ earlier later, ts = earlier ++ i :: later ∧ ∀ t ∈ later, i ≤ t

lemma not_marked_nil (i : Nat) : ¬Marked [] i := by
  rintro ⟨earlier, later, h, -⟩
  exact List.append_ne_nil_of_right_ne_nil earlier (List.cons_ne_nil i later) h.symm

/-- One more target marks its own panel and takes the marks behind it away. -/
lemma marked_append_singleton (ts : List Nat) (new i : Nat) :
    Marked (ts ++ [new]) i ↔ i = new ∨ (Marked ts i ∧ i ≤ new) := by
  constructor
  · rintro ⟨earlier, later, h, hlater⟩
    -- The new target is the marked one itself, or the last of those after it.
    rcases List.eq_nil_or_concat later with rfl | ⟨init, last, rfl⟩
    · left
      exact (List.append_inj' h rfl).2 |> List.cons.inj |>.1 |>.symm
    · right
      rw [List.concat_eq_append] at h hlater
      have hsplit : ts ++ [new] = (earlier ++ i :: init) ++ [last] := by
        rw [h, List.append_assoc, List.cons_append]
      obtain ⟨hts, hnew⟩ := List.append_inj' hsplit rfl
      obtain ⟨rfl, -⟩ := List.cons.inj hnew
      refine ⟨⟨earlier, init, hts, fun t ht => hlater t (List.mem_append_left _ ht)⟩, ?_⟩
      exact hlater new (List.mem_append_right _ (List.mem_singleton_self new))
  · rintro (rfl | ⟨⟨earlier, later, rfl, hlater⟩, hi⟩)
    · exact ⟨ts, [], rfl, fun t ht => absurd ht List.not_mem_nil⟩
    · refine ⟨earlier, later ++ [new], by simp, fun t ht => ?_⟩
      rcases List.mem_append.mp ht with ht | ht
      · exact hlater t ht
      · rw [List.mem_singleton.mp ht]
        exact hi

/-- No marked panel lies behind the last target. -/
lemma Marked.le_getLast {ts : List Nat} {c i : Nat} (h : Marked ts i)
    (hc : ts.getLast? = some c) : i ≤ c := by
  obtain ⟨init, rfl⟩ := List.getLast?_eq_some_iff.mp hc
  rcases (marked_append_singleton init c i).mp h with rfl | ⟨-, hi⟩
  · exact Nat.le_refl i
  · exact hi

lemma Marked.exists_getLast {ts : List Nat} {i : Nat} (h : Marked ts i) :
    ∃ c, ts.getLast? = some c := by
  obtain ⟨earlier, later, rfl, -⟩ := h
  exact ⟨_, List.getLast?_eq_some_getLast (by simp)⟩

/-- The last target is marked. -/
lemma marked_getLast {ts : List Nat} {c : Nat} (hc : ts.getLast? = some c) : Marked ts c := by
  obtain ⟨init, rfl⟩ := List.getLast?_eq_some_iff.mp hc
  exact ⟨init, [], rfl, fun t ht => absurd ht List.not_mem_nil⟩

/-- The place of a wizard that has gone to some targets one after the other. -/
structure Trail (w : Wizard σ) (ts : List Nat) : Prop where
  index : w.index? = ts.getLast?
  inBounds : w.InBounds
  visited (i : Nat) : i ∈ w.visitedPositions ↔ Marked ts i

/-- A wizard none of whose panels is visited has gone nowhere yet. -/
lemma trail_ofPanels {panels : List Panel} (hpanels : ∀ p ∈ panels, p.visited = false)
    (env : Environment) : Trail (ofPanels panels env : Wizard σ) [] := by
  refine ⟨rfl, inBounds_ofPanels panels env, fun i => ⟨fun hi => ?_, fun hi => ?_⟩⟩
  · obtain ⟨p, hp, hvisited⟩ := mem_visitedPositions.mp hi
    rw [panel?, panels_ofPanels] at hp
    have hunvisited := hpanels p (List.mem_of_getElem? hp)
    rw [hvisited] at hunvisited
    cases hunvisited
  · exact absurd hi (not_marked_nil i)

/-- A call adds its target to the trail. -/
lemma Trail.placed {ts : List Nat} {target? : Option Nat} (h : Trail w ts)
    (hplaced : Placed w w' target?) : Trail w' (ts ++ target?.toList) := by
  have hw' : w'.InBounds := hplaced.inBounds h.inBounds
  cases hplaced with
  | stayed hplace =>
    rw [Option.toList_none, List.append_nil]
    refine ⟨hplace.index.trans h.index, hw', fun i => ?_⟩
    rw [hplace.visitedPositions, h.visited]
  | @arrived v new hnew hplace harrive =>
    rw [harrive] at hw' ⊢
    refine ⟨?_, hw', fun i => ?_⟩
    · rw [index?_arrive, Option.toList_some, List.getLast?_concat]
    · rw [mem_visitedPositions_arrive (hplace.size ▸ hnew), hplace.visitedPositions, h.visited,
        Option.toList_some, marked_append_singleton]
      -- The marks that are taken away are exactly those behind the new panel.
      refine or_congr_right (and_congr_right fun hmarked => ?_)
      rw [keepsMark_iff]
      constructor
      · intro hkeeps
        obtain ⟨c, hc⟩ := hmarked.exists_getLast
        have hi : i ≤ c := hmarked.le_getLast hc
        rcases hkeeps c (h.index.trans hc) with hforward | hnear
        · exact Nat.le_trans hi hforward
        · exact hnear
      · intro hi c _
        exact .inr hi

lemma Trail.session (calls : List Call) {ts : List Nat} (h : Trail w ts) :
    Trail (session T calls w).state (ts ++ targets (SetupWizard.session T calls w).journal) := by
  induction calls generalizing w ts with
  | nil =>
    rw [session_nil, targets_nil, List.append_nil]
    exact h
  | cons c cs ih =>
    have hc := h.placed (Wizard.placed T h.inBounds c)
    rw [state_session_cons, journal_session_cons, targets_cons, ← List.append_assoc]
    exact ih hc

/-- **The trail of a session.**  Let a wizard none of whose panels is visited be called on in any
order.  Each move that succeeds has a target, a panel that the move can lead to.  The current
panel is the last target, and a panel is visited exactly if it was a target and no later target
lies in front of it; so no panel behind the current one is visited, and the current one is. -/
theorem trail_of_session (T : Crew σ) (panels : List Panel) (env : Environment)
    (hpanels : ∀ p ∈ panels, p.visited = false) (calls : List Call) :
    let after := SetupWizard.session T calls (ofPanels panels env)
    let w := after.state
    let ts := targets after.journal
    (∀ earlier m later, calls = earlier ++ .move m :: later →
      let v := (SetupWizard.session T earlier (ofPanels panels env)).state
      (m.perform T v).result = .ok true →
        ∃ i, ((Call.move m).exchange T v).target? = some i ∧ m.LeadsTo v i) ∧
      w.index? = ts.getLast? ∧ (∀ c, w.index? = some c → c < panels.length) ∧
      (∀ i, i ∈ w.visitedPositions ↔
        ∃ earlier later, ts = earlier ++ i :: later ∧ ∀ t ∈ later, i ≤ t) ∧
      (∀ c, w.index? = some c →
        c ∈ w.visitedPositions ∧ ∀ i ∈ w.visitedPositions, i ≤ c) ∧
      (w.index? = none → w.visitedPositions = []) := by
  have hnew : Trail (ofPanels panels env : Wizard σ) [] := trail_ofPanels hpanels env
  intro after w ts
  -- Everything is read off the trail that the calls have left behind.
  have h : Trail w ts := hnew.session calls
  have hsize : w.size = panels.length := by
    rw [size_session T (inBounds_ofPanels panels env), size_eq, panels_ofPanels]
  refine ⟨fun earlier m later _ => exists_target T (hnew.session earlier).inBounds, h.index,
    fun c hc => hsize ▸ h.inBounds c hc, h.visited, fun c hc => ?_, fun hnone => ?_⟩
  · have hlast : ts.getLast? = some c := h.index ▸ hc
    refine ⟨(h.visited c).mpr (marked_getLast hlast), fun i hi => ?_⟩
    exact ((h.visited i).mp hi).le_getLast hlast
  · refine List.eq_nil_iff_forall_not_mem.mpr fun i hi => ?_
    obtain ⟨c, hc⟩ := ((h.visited i).mp hi).exists_getLast
    rw [← h.index, hnone] at hc
    cases hc

/-- Two panels, gone through and back again. -/
theorem trail_of_return :
    let panels : List Panel :=
      [{ id := "welcome", className := "Text" }, { id := "finish", className := "Text" }]
    let calls : List Call := [.move (.next true), .move (.next false), .move .previous]
    let T : Crew Unit := Toolkit.plain ∅
    let after := SetupWizard.session T calls (ofPanels panels {})
    (∀ p ∈ panels, p.visited = false) ∧ targets after.journal = [0, 1, 0] ∧
      after.state.index? = some 0 ∧ ∀ i ∈ after.state.visitedPositions, i ≤ 0 := by
  intro panels calls T after
  have hpanels : ∀ p ∈ panels, p.visited = false := by decide
  have hts : targets after.journal = [0, 1, 0] := by decide
  obtain ⟨-, hindex, -, -, hcurrent, -⟩ :=
    trail_of_session T panels {} hpanels calls
  have hzero : after.state.index? = some 0 := by rw [hindex, hts]; rfl
  exact ⟨hpanels, hts, hzero, (hcurrent 0 hzero).2⟩

/-! ### Moves that do not succeed -/

lemma origin_of_obeys {α : Type} {m : Attempt Event (Wizard σ) α} {failure : Failure}
    (hm : m.Obeys (accountable T) w) (hfail : (m w).result = .error failure) :
    Origin T w (m w).journal failure := by
  rcases hr : m w with ⟨failure' | a, w', js⟩
  · rw [Obeys, hr] at hm
    rw [hr] at hfail
    cases hfail
    exact hm.2
  · rw [hr] at hfail
    cases hfail

/-- A failure of a call other than to act on a given panel has its origin. -/
lemma origin_of_failure (T : Crew σ) (hw : w.InBounds) {c : Call} {failure : Failure}
    (hc : ∀ i validate, c ≠ .act i validate) (hfail : (c.perform T w).result = .error failure) :
    Origin T w (c.perform T w).journal failure := by
  have h := governs_accountable T
  cases c with
  | move m =>
    have hmoved := h.perform hw m
    have hperform : (Call.move m).perform T w = _ := bind_pure_apply (m.perform T) Answer.flag w
    rw [hperform] at hfail ⊢
    generalize m.perform T w = report at hmoved hfail
    cases hmoved with
    | stayed => cases hfail
    | failed herr =>
      cases hfail
      exact herr.2
    | arrived => cases hfail
  | ask q => exact origin_of_obeys (.map _ (h.ask hw q)) hfail
  | act i validate => exact absurd rfl (hc i validate)
  | record => exact origin_of_obeys (.map _ h.installationRecord) hfail
  | setNext open' => cases hfail
  | setPrevious open' => cases hfail
  | adjust f => cases hfail

/-- **A move that does not succeed** leaves the place of a reachable wizard alone, whether it is
refused or fails.  And no call other than to act on a given panel fails for want of a panel,
unless the failure comes from the crew. -/
theorem place_of_unsuccessful_move (T : Crew σ) (w : Wizard σ) (hw : Reachable T w) :
    (∀ m : Move, (m.perform T w).result ≠ .ok true →
      (m.perform T w).state.index? = w.index? ∧ (m.perform T w).state.panels = w.panels) ∧
    ∀ c : Call, (∀ i validate, c ≠ .act i validate) → ∀ index size,
      (c.perform T w).result = .error (.panelIndex index size) →
      Foreign T w (c.perform T w).journal (.panelIndex index size) := by
  have hbounds := hw.inBounds
  have h := governs_accountable T
  constructor
  · intro m hresult
    have hplace := (h.perform hbounds m).samePlace h hresult
    exact ⟨hplace.index, hplace.panels⟩
  · intro c hc index size hfail
    exact (origin_of_failure T hbounds hc hfail).foreign_of_panelIndex

/-- The views do not agree to the change: the one of the second panel objects to being entered, that
of the third cannot be made, and that of the last objects to being left. -/
theorem place_of_objections :
    let T : Crew Unit :=
      { create := fun p =>
          if p.id = "broken" then .error (.panelView p.id "no display") else .ok ()
        hooks := { activate := fun stage => pure (stage.panel.id != "shy")
                   deactivate := fun stage => pure (stage.panel.id != "sticky") } }
    let panels : List Panel := ["welcome", "shy", "broken", "sticky"].map fun id =>
      { id, className := "Text" }
    let start : Wizard Unit := ofPanels panels {}
    let first := (SetupWizard.session T [.move (.next true)] start).state
    let last := (SetupWizard.session T [.move (.next true), .move (.switchTo 3 false)] start).state
    Reachable T first ∧ Reachable T last ∧
      ((Move.next true).perform T first).result = .ok false ∧
      ((Move.next true).perform T first).state.index? = some 0 ∧
      ((Move.switchTo 2 true).perform T first).result =
        .error (.panelView "broken" "no display") ∧
      ((Move.switchTo 2 true).perform T first).state.index? = some 0 ∧
      ((Move.goTo "welcome").perform T last).result = .ok false ∧
      ((Move.goTo "welcome").perform T last).state.index? = some 3 ∧
      ((Move.goTo "welcome").perform T last).state.panels = last.panels := by
  intro T panels start first last
  have hfirst : Reachable T first := ⟨panels, {}, _, rfl⟩
  have hlast : Reachable T last := ⟨panels, {}, _, rfl⟩
  have hshy : ((Move.next true).perform T first).result = .ok false := by decide
  have hbroken : ((Move.switchTo 2 true).perform T first).result =
      .error (.panelView "broken" "no display") := by decide
  have hsticky : ((Move.goTo "welcome").perform T last).result = .ok false := by decide
  have hindex : first.index? = some 0 := by decide
  have hindex' : last.index? = some 3 := by decide
  have hplace := (place_of_unsuccessful_move T first hfirst).1
  have hplace' := (place_of_unsuccessful_move T last hlast).1 (.goTo "welcome") (by simp [hsticky])
  exact ⟨hfirst, hlast, hshy, (hplace (.next true) (by simp [hshy])).1.trans hindex, hbroken,
    (hplace (.switchTo 2 true) (by simp [hbroken])).1.trans hindex, hsticky,
    hplace'.1.trans hindex', hplace'.2⟩

end Wizard

end SetupWizard
