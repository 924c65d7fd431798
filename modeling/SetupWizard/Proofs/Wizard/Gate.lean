/-
# The gate

The way forward can be closed, and then no move leads forward.  The gate stands behind validation:
what counts is whether the way is open by the time the data of the current panel has been validated,
so a panel may also close it while it is validated.  A move that the gate refuses calls none of the
hooks for saving, leaving and entering a panel: whatever these hooks would do, the move comes to the
same.  And as long as nobody opens the way again, the current panel never lies further ahead than it
did before (`gate_of_session`).
-/
import SetupWizard.Proofs.Session
import SetupWizard.Proofs.Validation
import SetupWizard.Proofs.Wizard.Looking

namespace SetupWizard

open Attempt

variable {σ α : Type}

/-- The hooks of the views never open the way forward. -/
structure Hooks.NeverOpen (hooks : Hooks σ) : Prop where
  validation {validation : Stage → Attempt Remark (Scene σ) Bool} :
    hooks.validation? = some validation → ∀ stage scene, scene.navigation.next = false →
      (validation stage scene).state.navigation.next = false
  beforeValidation (stage : Stage) (scene : Scene σ) : scene.navigation.next = false →
    (hooks.beforeValidation stage scene).state.navigation.next = false
  afterValidation (stage : Stage) (scene : Scene σ) : scene.navigation.next = false →
    (hooks.afterValidation stage scene).state.navigation.next = false
  save (stage : Stage) (scene : Scene σ) : scene.navigation.next = false →
    (hooks.save stage scene).state.navigation.next = false
  activate (stage : Stage) (scene : Scene σ) : scene.navigation.next = false →
    (hooks.activate stage scene).state.navigation.next = false
  deactivate (stage : Stage) (scene : Scene σ) : scene.navigation.next = false →
    (hooks.deactivate stage scene).state.navigation.next = false

/-- The crew with other hooks for saving, entering and leaving a panel. -/
def Crew.recast (T : Crew σ) (save : Hook σ Unit) (activate deactivate : Hook σ Bool) :
    Crew σ :=
  { T with hooks := { T.hooks with save, activate, deactivate } }

/-- The state in which the validation that belongs to a move leaves the wizard.  Only a move to the
next panel validates, and only if it is to. -/
def Move.validated (T : Crew σ) (w : Wizard σ) : Move → Wizard σ
  | .next validate => (Wizard.approve T validate w).state
  | _ => w

/-- The move leads forward if it leads anywhere. -/
def Move.Onward (w : Wizard σ) : Move → Prop
  | .next _ => True
  | .previous => False
  | .goTo id => ∀ i, w.position? id = some i → Wizard.isForward w.index? i = true
  | .switchTo i _ => Wizard.isForward w.index? i = true

namespace Wizard

variable {T : Crew σ} {w w' w'' : Wizard σ} {i new : Nat} {validate : Bool}

/-- The current panel does not lie further ahead than before. -/
def NotAhead (w w' : Wizard σ) : Prop :=
  ∀ i, w'.index? = some i → ∃ c, w.index? = some c ∧ i ≤ c

lemma NotAhead.of_samePlace (h : SamePlace w w') : NotAhead w w' :=
  fun i hi => ⟨i, h.index ▸ hi, Nat.le_refl i⟩

lemma NotAhead.trans (h : NotAhead w w') (h' : NotAhead w' w'') : NotAhead w w'' := by
  intro i hi
  obtain ⟨c, hc, hic⟩ := h' i hi
  obtain ⟨b, hb, hcb⟩ := h c hc
  exact ⟨b, hb, Nat.le_trans hic hcb⟩

/-- A move does not succeed and leaves the place alone, and the hooks for saving, entering and
leaving a panel have no part in it. -/
structure Barred (T : Crew σ) (w : Wizard σ) (m : Move) : Prop where
  result : (m.perform T w).result ≠ .ok true
  samePlace : SamePlace w (m.perform T w).state
  recast (save : Hook σ Unit) (activate deactivate : Hook σ Bool) :
    m.perform (T.recast save activate deactivate) w = m.perform T w

/-! ### Moves to a given panel -/

lemma isForward_eq_false_iff {old? : Option Nat} :
    isForward old? new = false ↔ ∃ old, old? = some old ∧ new ≤ old := by
  cases old? with
  | none => simp [isForward]
  | some old => simp [isForward]

/-- What lies ahead is forward. -/
lemma isForward_of_mem_ahead (h : i ∈ w.ahead) : isForward w.index? i = true := by
  cases hc : w.index? with
  | none => rfl
  | some c => simpa [isForward] using lt_of_mem_ahead hc h

/-- A closed gate refuses a move forward at once. -/
lemma switchTo_of_closed {validated : Bool} (hclosed : w.navigation.next = false)
    (hforward : isForward w.index? new = true) :
    switchTo T new validated w = ⟨.ok false, w, []⟩ := by
  have hgate : gate T w.index? new w = ⟨.ok false, w, []⟩ := by
    rw [gate, if_pos hforward, isNextEnabled, Attempt.get_bind, hclosed]
    rfl
  rw [switchTo_eq, Attempt.get_bind]
  split
  · rfl
  · rw [bind_of_ok hgate]
    rfl

lemma goTo_of_closed {id : String} (hclosed : w.navigation.next = false)
    (hforward : ∀ i, w.position? id = some i → isForward w.index? i = true) :
    goTo T id w = ⟨.ok false, w, []⟩ := by
  rw [goTo, Attempt.get_bind]
  cases hid : w.position? id with
  | none => rfl
  | some i => exact switchTo_of_closed hclosed (hforward i hid)

/-! ### Moves to the next panel -/

/-- The law that the place is kept and a closed gate stays closed. -/
def shutting : Law Event (Wizard σ) where
  ok w _ w' := SamePlace w w' ∧ (w.navigation.next = false → w'.navigation.next = false)
  err _ w _ w' := SamePlace w w' ∧ (w.navigation.next = false → w'.navigation.next = false)
  ok_refl w := ⟨.refl w, id⟩
  ok_trans h h' := ⟨h.1.trans h'.1, h'.2 ∘ h.2⟩
  err_trans h h' := ⟨h.1.trans h'.1, h'.2 ∘ h.2⟩

lemma shutting_reach (T : Crew σ) (i : Nat) (w : Wizard σ) : (reach T i).Obeys shutting w := by
  have h := reached T i w
  unfold Obeys
  cases hr : reach T i w
  rw [hr] at h
  cases h with
  | created => exact ⟨samePlace_setView i _ w, id⟩
  | _ => exact ⟨.refl w, id⟩

lemma admitsLooking_shutting (T : Crew σ) : AdmitsLooking T shutting where
  reach := shutting_reach T
  inquire visibleOnly panel memory w := obeys_inquire visibleOnly panel memory w ⟨⟨rfl, rfl⟩, id⟩

/-- What is left of a move to the next panel when the gate is closed: the current panel is validated
and the next one is sought. -/
def seek (T : Crew σ) (validate : Bool) : Attempt Event (Wizard σ) Bool := do
  let approved ← approve T validate
  if approved then do
    let _ ← findNext T false
    return false
  else return false

lemma result_seek_ne : (seek T validate w).result ≠ .ok true := by
  rcases hseek : seek T validate w with ⟨_ | moved, w', js⟩
  · exact fun h => by cases h
  · obtain ⟨approved, u, _, _, -, hrest, -⟩ := exists_of_bind_ok hseek
    cases approved with
    | false =>
      cases hrest
      exact fun h => by cases h
    | true =>
      obtain ⟨_, _, _, _, -, hend, -⟩ := exists_of_bind_ok hrest
      cases hend
      exact fun h => by cases h

/-- A closed gate refuses a move to whatever panel is found. -/
lemma next_of_closed (hclosed : (approve T validate w).state.navigation.next = false) :
    next T validate w = seek T validate w := by
  rw [next_eq, seek]
  rcases happrove : approve T validate w with ⟨failure | approved, u, js⟩
  · rw [bind_of_error happrove, bind_of_error happrove]
  · rw [happrove] at hclosed
    rw [bind_of_ok happrove, bind_of_ok happrove]
    cases approved with
    | false => rfl
    | true =>
      simp only [if_true]
      rcases hfound : findNext T false u with ⟨failure | target?, u', ks⟩
      · rw [bind_of_error hfound, bind_of_error hfound]
      · rw [bind_of_ok hfound, bind_of_ok hfound]
        cases target? with
        | none => rfl
        | some i =>
          -- To look for a panel has not opened the gate.
          obtain ⟨hplace, hshut⟩ := ((admitsLooking_shutting T).findNext false).ok_of_eq hfound
          have hahead : i ∈ u'.ahead := hplace.ahead ▸ mem_of_firstShown hfound
          have hclosed' : u'.navigation.next = false := hshut hclosed
          simp only [switchTo_of_closed hclosed' (isForward_of_mem_ahead hahead)]
          rfl

section Recast

variable (T : Crew σ) (save : Hook σ Unit) (activate deactivate : Hook σ Bool)

lemma approve_recast (validate : Bool) :
    approve (T.recast save activate deactivate) validate = approve T validate := rfl

lemma firstShown_recast (visibleOnly : Bool) (is : List Nat) :
    firstShown (T.recast save activate deactivate) visibleOnly is =
      firstShown T visibleOnly is := by
  induction is with
  | nil => rfl
  | cons i is ih =>
    rw [firstShown, firstShown, ih]
    rfl

lemma seek_recast (validate : Bool) :
    seek (T.recast save activate deactivate) validate = seek T validate := by
  unfold seek findNext
  simp only [approve_recast, firstShown_recast]

end Recast

/-! ### One move -/

lemma samePlace_of_unsuccessful (T : Crew σ) (hw : w.InBounds) {m : Move}
    (hresult : (m.perform T w).result ≠ .ok true) : SamePlace w (m.perform T w).state :=
  ((governs_accountable T).perform hw m).samePlace (governs_accountable T) hresult

/-- A move is barred that any crew refuses at once. -/
lemma barred_of_refused (hw : w.InBounds) {m : Move}
    (hrefused : ∀ T : Crew σ, m.perform T w = ⟨.ok false, w, []⟩) : Barred T w m := by
  have hresult : (m.perform T w).result ≠ .ok true := by
    rw [hrefused]
    exact fun h => by cases h
  exact ⟨hresult, samePlace_of_unsuccessful T hw hresult,
    fun _ _ _ => (hrefused _).trans (hrefused T).symm⟩

/-- A move onward is barred when the gate is closed after its validation. -/
lemma barred_of_closed (hw : w.InBounds) {m : Move} (honward : m.Onward w)
    (hclosed : (m.validated T w).navigation.next = false) : Barred T w m := by
  cases m with
  | next validate =>
    have hnext : next T validate w = seek T validate w := next_of_closed hclosed
    have hresult : (next T validate w).result ≠ .ok true := hnext ▸ result_seek_ne
    refine ⟨hresult, samePlace_of_unsuccessful T hw hresult, fun save activate deactivate => ?_⟩
    have hrecast : next (T.recast save activate deactivate) validate w =
        seek (T.recast save activate deactivate) validate w := next_of_closed hclosed
    rw [seek_recast] at hrecast
    exact hrecast.trans hnext.symm
  | previous => exact honward.elim
  | goTo id => exact barred_of_refused hw fun _ => goTo_of_closed hclosed honward
  | switchTo i validated => exact barred_of_refused hw fun _ => switchTo_of_closed hclosed honward

/-- A move that succeeds although the gate is closed leads to a panel not further ahead. -/
lemma le_of_leadsTo (hw : w.InBounds) {m : Move}
    (hclosed : (m.validated T w).navigation.next = false)
    (hmoved : (m.perform T w).result = .ok true) (hleads : m.LeadsTo w new) :
    ∃ c, w.index? = some c ∧ new ≤ c := by
  have hbar (honward : m.Onward w) : False := (barred_of_closed hw honward hclosed).result hmoved
  cases m with
  | next validate => exact (hbar trivial).elim
  | previous =>
    cases hc : w.index? with
    | none => simp [Move.LeadsTo, behind, hc] at hleads
    | some c =>
      have hlt : new < c := by simpa [Move.LeadsTo, behind, hc] using hleads
      exact ⟨c, rfl, Nat.le_of_lt hlt⟩
  | goTo id =>
    refine isForward_eq_false_iff.mp (Bool.eq_false_iff.mpr fun hforward => hbar fun i hi => ?_)
    obtain rfl : new = i := Option.some.inj (hleads.symm.trans hi)
    exact hforward
  | switchTo i validated =>
    obtain rfl : new = i := hleads
    exact isForward_eq_false_iff.mp (Bool.eq_false_iff.mpr hbar)

/-- With the gate closed after its validation a move does not lead further ahead. -/
lemma notAhead_of_closed (hw : w.InBounds) (m : Move)
    (hclosed : (m.validated T w).navigation.next = false) : NotAhead w (m.perform T w).state := by
  by_cases hresult : (m.perform T w).result = .ok true
  · obtain ⟨new, htarget, hleads⟩ := exists_target T hw hresult
    have hplaced := placed T hw (.move m)
    rw [state_perform_move, htarget] at hplaced
    cases hplaced with
    | arrived hnew hplace harrive =>
      intro i hi
      rw [harrive, index?_arrive] at hi
      exact Option.some.inj hi ▸ le_of_leadsTo hw hclosed hresult hleads
  · exact .of_samePlace (samePlace_of_unsuccessful T hw hresult)

/-! ### Keeping the gate closed -/

lemma shutting_refresh : refresh.Obeys shutting w := by
  rw [Obeys, refresh_apply]
  cases w.env.refresh with
  | ok env => exact ⟨⟨rfl, rfl⟩, id⟩
  | error e => exact ⟨.refl w, id⟩

/-- A view that does not open the gate while it acts. -/
lemma shutting_turn {occasion : Occasion} {act : Stage → Attempt Remark (Scene σ) α}
    (hact : ∀ stage scene, scene.navigation.next = false →
      (act stage scene).state.navigation.next = false) :
    (turn T occasion i act).Obeys shutting w := by
  refine .bind (shutting_reach T i w) fun (panel, memory) u _ _ _ => ?_
  have hkeeps := hact ⟨panel, T.catalog⟩ ⟨memory, u.env, u.navigation⟩
  exact (obeys_iff_ok fun _ => rfl).mpr ⟨⟨panels_setView .., rfl⟩, hkeeps⟩

/-- The law for hooks that a closed gate stays closed. -/
abbrev keepsShut : Law Remark (Scene σ) := .keeping fun scene => scene.navigation.next = false

lemma keepsShut_refresh (scene : Scene σ) : Scene.refresh.Obeys keepsShut scene := by
  refine obeys_keeping_iff.mpr fun hclosed => ?_
  rw [Scene.refresh_apply]
  cases scene.env.refresh with
  | ok env => exact hclosed
  | error e => exact hclosed

lemma keepsShut_runAll (stage : Stage) (ids : List String) (scene : Scene σ) :
    (stage.runAll ids).Obeys keepsShut scene := by
  rw [obeys_keeping_iff, stage.state_runAll]
  exact id

section NeverOpen

variable {hooks : Hooks σ} (h : hooks.NeverOpen) (stage : Stage) (scene : Scene σ)
include h

lemma closed_of_validate (hclosed : scene.navigation.next = false) :
    (hooks.validate stage scene).state.navigation.next = false := by
  unfold Hooks.validate
  cases hvalidation : hooks.validation? with
  | some validation => exact h.validation hvalidation stage scene hclosed
  | none =>
    suffices hobeys : (hooks.standardValidation stage).Obeys keepsShut scene from
      hobeys.keeps hclosed
    refine .bind (keepsShut_refresh scene) fun _ scene₁ _ _ _ => ?_
    refine .bind (h.beforeValidation stage scene₁ :) fun _ scene₂ _ _ _ => ?_
    refine .bind (keepsShut_runAll stage _ scene₂) fun passed scene₃ _ _ _ => ?_
    cases passed with
    | true => exact .map _ (h.afterValidation stage scene₃ :)
    | false => exact .pure false scene₃

lemma closed_of_commit (hclosed : scene.navigation.next = false) :
    (hooks.commit stage scene).state.navigation.next = false := by
  suffices hobeys : (hooks.commit stage).Obeys keepsShut scene from hobeys.keeps hclosed
  refine .bind (keepsShut_refresh scene) fun _ scene₁ _ _ _ => ?_
  refine .bind (h.beforeValidation stage scene₁ :) fun _ scene₂ _ _ _ => ?_
  refine .bind (h.afterValidation stage scene₂ :) fun _ scene₃ _ _ _ => ?_
  exact .map _ (h.save stage scene₃ :)

end NeverOpen

lemma governs_shutting (h : T.hooks.NeverOpen) : Governs T shutting where
  samePlace h := h.1
  samePlace_of_err h := h.1
  reach _ := shutting_reach T _ _
  inquire visibleOnly panel memory := (admitsLooking_shutting T).inquire visibleOnly panel memory _
  refresh := shutting_refresh
  validate _ := shutting_turn (closed_of_validate h)
  commit _ := shutting_turn (closed_of_commit h)
  save _ := shutting_turn h.save
  leave _ := shutting_turn h.deactivate
  enter _ := shutting_turn h.activate
  record _ := shutting_turn fun _ _ => id

lemma closed_of_obeys {m : Attempt Event (Wizard σ) α} (hm : m.Obeys shutting w)
    (hclosed : w.navigation.next = false) : (m w).state.navigation.next = false :=
  ((obeys_iff_ok fun _ => rfl).mp hm).2 hclosed

/-- No call opens the gate but the one that is there for it. -/
lemma closed_perform (h : T.hooks.NeverOpen) (hw : w.InBounds) {c : Call} (hc : c ≠ .setNext true)
    (hclosed : w.navigation.next = false) : (c.perform T w).state.navigation.next = false := by
  have hgoverns := governs_shutting h
  cases c with
  | move m =>
    have hmoved := hgoverns.perform hw m
    rw [state_perform_move]
    generalize m.perform T w = report at hmoved
    cases hmoved with
    | stayed hok => exact hok.2 hclosed
    | failed herr => exact herr.2 hclosed
    | arrived _ _ _ hok =>
      rw [navigation_arrive]
      exact hok.2 hclosed
  | ask q => exact closed_of_obeys (.map _ (hgoverns.ask hw q)) hclosed
  | act i validate =>
    cases validate with
    | true => exact closed_of_obeys (.map _ (shutting_turn (closed_of_validate h))) hclosed
    | false => exact closed_of_obeys (.map _ (shutting_turn (closed_of_commit h))) hclosed
  | record => exact closed_of_obeys (.map _ hgoverns.installationRecord) hclosed
  | setNext open' =>
    cases open' with
    | true => exact absurd rfl hc
    | false => rfl
  | setPrevious open' => exact hclosed
  | adjust f => exact hclosed

/-- A gate that is closed is closed after the validation that belongs to a move. -/
lemma closed_validated (h : T.hooks.NeverOpen) (hw : w.InBounds) (m : Move)
    (hclosed : w.navigation.next = false) : (m.validated T w).navigation.next = false := by
  cases m with
  | next validate => exact closed_of_obeys ((governs_shutting h).approve hw) hclosed
  | _ => exact hclosed

/-- While the gate is closed, no call leads further ahead. -/
lemma notAhead_perform (h : T.hooks.NeverOpen) (hw : w.InBounds) (c : Call)
    (hclosed : w.navigation.next = false) : NotAhead w (c.perform T w).state := by
  by_cases hmove : ∃ m, c = .move m
  · obtain ⟨m, rfl⟩ := hmove
    rw [state_perform_move]
    exact notAhead_of_closed hw m (closed_validated h hw m hclosed)
  · -- Only moves have a target.
    have htarget : (c.exchange T w).target? = none := by
      cases c with
      | move m => exact absurd ⟨m, rfl⟩ hmove
      | _ => rfl
    have hplaced := placed T hw c
    rw [htarget] at hplaced
    cases hplaced with
    | stayed hplace => exact .of_samePlace hplace

/-- While nobody opens it, a closed gate stays closed and holds back the wizard. -/
lemma notAhead_session (h : T.hooks.NeverOpen) {calls : List Call}
    (hcalls : ∀ c ∈ calls, c ≠ .setNext true) (hw : w.InBounds)
    (hclosed : w.navigation.next = false) :
    (session T calls w).state.navigation.next = false ∧
      NotAhead w (session T calls w).state := by
  induction calls generalizing w with
  | nil => exact ⟨hclosed, .of_samePlace (.refl w)⟩
  | cons c cs ih =>
    rw [List.forall_mem_cons] at hcalls
    obtain ⟨hshut, hrest⟩ := ih hcalls.2 ((placed T hw c).inBounds hw)
      (closed_perform h hw hcalls.1 hclosed)
    exact ⟨hshut, (notAhead_perform h hw c hclosed).trans hrest⟩

/-- **The gate.**  If the way forward is closed by the time a move has validated the data of the
current panel, then the move does not lead further ahead; and if it could only lead forward, it does
not succeed, leaves the place alone, and comes to the same whatever the hooks for saving, entering
and leaving a panel do.  Where the hooks never open the way and it is closed, this is so throughout
any session in which nobody opens it from outside, and between any two moments of such a session
the current panel does not come to lie further ahead. -/
theorem gate_of_session (T : Crew σ) (hw : w.InBounds) :
    (∀ m : Move, (m.validated T w).navigation.next = false →
      NotAhead w (m.perform T w).state ∧ (m.Onward w → Barred T w m)) ∧
    (T.hooks.NeverOpen → w.navigation.next = false → ∀ earlier later : List Call,
      (∀ c ∈ earlier ++ later, c ≠ .setNext true) →
        let v := (session T earlier w).state
        let v' := (session T later v).state
        v.navigation.next = false ∧ NotAhead w v ∧ NotAhead v v' ∧
          ∀ m : Move, m.Onward v → Barred T v m) := by
  refine ⟨fun m hclosed => ⟨notAhead_of_closed hw m hclosed, fun honward =>
    barred_of_closed hw honward hclosed⟩, fun h hclosed earlier later hcalls => ?_⟩
  intro v v'
  rw [List.forall_mem_append] at hcalls
  have hv : v.InBounds := inBounds_session T hw
  obtain ⟨hshut, hbefore⟩ := notAhead_session h hcalls.1 hw hclosed
  obtain ⟨-, hafter⟩ := notAhead_session h hcalls.2 hv hshut
  exact ⟨hshut, hbefore, hafter, fun m honward =>
    barred_of_closed hv honward (closed_validated h hv m hshut)⟩

/-- A view that closes the way forward while it is validated holds back the move that validates it,
and all moves onward after that. -/
theorem gate_of_closing_view :
    let close (scene : Scene Unit) : Scene Unit :=
      { scene with navigation := { scene.navigation with next := false } }
    let T : Crew Unit :=
      { create := fun _ => .ok (), hooks := { afterValidation := fun _ => Step.modify close } }
    let panels : List Panel :=
      [{ id := "welcome", className := "Text" }, { id := "finish", className := "Text" }]
    let w : Wizard Unit := (session T [.move (.next true)] (ofPanels panels {})).state
    let v := (session T [.move (.next true)] w).state
    w.InBounds ∧ w.index? = some 0 ∧ w.navigation.next = true ∧ Barred T w (.next true) ∧
      v.InBounds ∧ v.index? = some 0 ∧ T.hooks.NeverOpen ∧ v.navigation.next = false ∧
      Barred T v (.goTo "finish") := by
  intro close T panels w v
  have hw : w.InBounds := inBounds_session T (inBounds_ofPanels panels {})
  have hindex : w.index? = some 0 := by decide
  have hopen : w.navigation.next = true := by decide
  have hvalidated : ((Move.next true).validated T w).navigation.next = false := by decide
  have hv : v.InBounds := inBounds_session T hw
  have hindex' : v.index? = some 0 := by decide
  have hnever : T.hooks.NeverOpen := by
    constructor
    · intro validation h
      cases h
    · exact fun _ _ h => h
    · exact fun _ _ _ => rfl
    · exact fun _ _ h => h
    · exact fun _ _ h => h
    · exact fun _ _ h => h
  have hclosed : v.navigation.next = false := by decide
  have honward : (Move.goTo "finish").Onward v := by
    intro i hi
    have hposition : v.position? "finish" = some 1 := by decide
    obtain rfl : 1 = i := Option.some.inj (hposition.symm.trans hi)
    rw [hindex']
    rfl
  -- From here on nothing more has to be computed.
  clear_value w v
  obtain ⟨-, hbarred⟩ := (gate_of_session T hw).1 (.next true) hvalidated
  obtain ⟨-, -, -, hlater⟩ :=
    (gate_of_session T hv).2 hnever hclosed [] [] fun _ h => absurd h List.not_mem_nil
  exact ⟨hw, hindex, hopen, hbarred trivial, hv, hindex', hnever, hclosed,
    hlater (.goTo "finish") honward⟩

end Wizard

end SetupWizard
