/-
# Views that are made when they are needed

A wizard makes a view when it is first needed, be it only to answer a question.  Its *outlook* is
what its views are or will be: the memory of each view that has been made, overlaid on what the
toolkit makes for the other panels.  Two wizards are *alike* when they have the same outlook and
else do not differ.

Nothing that a wizard does depends on which views have been made already, but only on the outlook
(`Blind`), and with the views of a toolkit the questions whether and where a wizard can go leave the
outlook as it is.  These questions may therefore be asked at any time and as often as one likes:
whatever else is called on the wizard comes to the same (`observed_of_queries`).  That needs views
that only answer when they are asked whether they agree to being shown, and views that can be made
later if they can be made now (`observed_ne_of_query`).
-/
import SetupWizard.Proofs.Wizard.Correspondence
import SetupWizard.Proofs.Wizard.Looking

namespace SetupWizard

open Attempt

variable {σ α β : Type}

/-- A panel with the memory of its view, or with what comes of making the view. -/
def Slot.outlook (T : Toolkit σ) (slot : Slot σ) : Panel × Except Failure σ :=
  (slot.panel, slot.view?.elim (T.create slot.panel) .ok)

/-- The crew makes a view according to the id and the class of its panel. -/
def Crew.ByName (T : Crew σ) : Prop :=
  ∀ p q : Panel, p.id = q.id → p.className = q.className → T.create p = T.create q

namespace Wizard

/-- The panels with the memories that their views have or will have. -/
def outlook (T : Toolkit σ) (w : Wizard σ) : List (Panel × Except Failure σ) :=
  w.slots.map (Slot.outlook T)

/-- Two wizards differ at most in which views have been made already. -/
structure Alike (T : Toolkit σ) (w w' : Wizard σ) : Prop where
  outlook : w'.outlook T = w.outlook T
  env : w'.env = w.env
  navigation : w'.navigation = w.navigation
  index : w'.index? = w.index?

variable {T : Toolkit σ} {w w' w'' : Wizard σ}

namespace Alike

lemma refl (T : Toolkit σ) (w : Wizard σ) : Alike T w w := ⟨rfl, rfl, rfl, rfl⟩

lemma symm (h : Alike T w w') : Alike T w' w :=
  ⟨h.outlook.symm, h.env.symm, h.navigation.symm, h.index.symm⟩

lemma trans (h : Alike T w w') (h' : Alike T w' w'') : Alike T w w'' :=
  ⟨h'.outlook.trans h.outlook, h'.env.trans h.env, h'.navigation.trans h.navigation,
    h'.index.trans h.index⟩

end Alike

lemma map_fst_outlook (T : Toolkit σ) (w : Wizard σ) : (w.outlook T).map Prod.fst = w.panels := by
  rw [outlook, List.map_map]
  rfl

lemma getElem?_outlook (T : Toolkit σ) (w : Wizard σ) (i : Nat) :
    (w.outlook T)[i]? = (w.slots[i]?).map (Slot.outlook T) := List.getElem?_map

namespace Alike

lemma panels (h : Alike T w w') : w'.panels = w.panels := by
  rw [← map_fst_outlook T, h.outlook, map_fst_outlook]

lemma samePlace (h : Alike T w w') : SamePlace w w' := ⟨h.panels, h.index⟩

/-- Wizards that are alike cannot be told apart from outside. -/
lemma face (h : Alike T w w') : w'.face = w.face := by
  rw [Wizard.face, Wizard.face, h.panels, h.env, h.navigation, h.index]

end Alike

/-! ### Changing a wizard -/

lemma outlook_setView (i : Nat) (memory : σ) (w : Wizard σ) :
    (w.setView i memory).outlook T =
      (w.outlook T).modify i fun entry => (entry.1, .ok memory) := by
  refine List.ext_getElem? fun j => ?_
  rw [List.getElem?_modify, getElem?_outlook, getElem?_outlook, getElem?_slots_setView]
  cases w.slots[j]? with
  | none => rfl
  | some slot => by_cases h : i = j <;> simp [h, Slot.outlook]

/-- To make a view is no news. -/
lemma alike_setView {i : Nat} {panel : Panel} {memory : σ}
    (hslot : w.slots[i]? = some ⟨panel, none⟩) (hcreate : T.create panel = .ok memory) :
    Alike T w (w.setView i memory) := by
  refine ⟨?_, rfl, rfl, rfl⟩
  refine List.ext_getElem? fun j => ?_
  rw [getElem?_outlook, getElem?_outlook, getElem?_slots_setView]
  by_cases h : i = j
  · subst h
    simp [hslot, Slot.outlook, hcreate]
  · simp [h]

lemma Alike.setView (h : Alike T w w') (i : Nat) (memory : σ) :
    Alike T (w.setView i memory) (w'.setView i memory) :=
  ⟨by rw [outlook_setView, outlook_setView, h.outlook], h.env, h.navigation, h.index⟩

lemma outlook_arrive (hT : T.ByName) (old? : Option Nat) (new : Nat) (w : Wizard σ) :
    (arrive old? new w).outlook T = (w.outlook T).mapIdx fun i entry =>
      ({ entry.1 with visited := i = new || (entry.1.visited && keepsMark old? new i) },
        entry.2) := by
  refine List.ext_getElem? fun i => ?_
  rw [List.getElem?_mapIdx, getElem?_outlook, getElem?_outlook, getElem?_slots_arrive]
  cases w.slots[i]? with
  | none => rfl
  | some slot =>
    obtain ⟨panel, view?⟩ := slot
    -- A panel that gains or loses its mark keeps its id and its class.
    have hcreate (visited : Bool) : T.create { panel with visited } = T.create panel :=
      hT _ _ rfl rfl
    cases view? <;> simp [Slot.outlook, hcreate]

lemma Alike.arrive (hT : T.ByName) (h : Alike T w w') (old? : Option Nat) (new : Nat) :
    Alike T (arrive old? new w) (arrive old? new w') where
  outlook := by rw [outlook_arrive hT, outlook_arrive hT, h.outlook]
  env := by rw [env_arrive, env_arrive, h.env]
  navigation := by rw [navigation_arrive, navigation_arrive, h.navigation]
  index := by rw [index?_arrive, index?_arrive]

/-! ### What depends on the outlook only -/

/-- An attempt comes to the same for wizards that are alike, and leaves them alike. -/
def Blind (T : Toolkit σ) (m : Attempt Event (Wizard σ) α) : Prop :=
  ∀ w w', Alike T w w' → (m w').result = (m w).result ∧ Alike T (m w).state (m w').state

namespace Blind

lemma pure (a : α) : Blind T (Pure.pure a : Attempt Event (Wizard σ) α) := fun _ _ h => ⟨rfl, h⟩

/-- **A composed attempt is blind when its parts are.** -/
lemma bind {m : Attempt Event (Wizard σ) α} {f : α → Attempt Event (Wizard σ) β}
    (hm : Blind T m) (hf : ∀ a, Blind T (f a)) : Blind T (m >>= f) := by
  intro w w' h
  obtain ⟨hresult, hstate⟩ := hm w w' h
  rcases hw : m w with ⟨failure | a, v, js⟩ <;> rcases hw' : m w' with ⟨result, v', js'⟩ <;>
    rw [hw, hw'] at hresult hstate <;> obtain rfl := hresult
  · rw [bind_of_error hw, bind_of_error hw']
    exact ⟨rfl, hstate⟩
  · rw [bind_of_ok hw, bind_of_ok hw']
    exact hf a v v' hstate

/-- An attempt may look at what is the same for wizards that are alike. -/
lemma get_bind {f : Wizard σ → Attempt Event (Wizard σ) α}
    (hf : ∀ w w', Alike T w w' → f w' = f w) (hblind : ∀ w, Blind T (f w)) :
    Blind T (Attempt.get >>= f) := by
  intro w w' h
  rw [Attempt.get_bind, Attempt.get_bind, hf w w' h]
  exact hblind w w w' h

end Blind

/-- What comes of reaching a view can be told from the outlook. -/
lemma result_reach (T : Toolkit σ) (i : Nat) (w : Wizard σ) :
    (reach T i w).result =
      match (w.outlook T)[i]? with
      | none => .error (.panelIndex i w.size)
      | some (panel, made) => made.map fun memory => (panel, memory) := by
  rw [getElem?_outlook, reach_apply]
  cases w.slots[i]? with
  | none => rfl
  | some slot =>
    obtain ⟨panel, view?⟩ := slot
    cases view? with
    | some memory => rfl
    | none =>
      dsimp only
      cases hcreate : T.create panel <;> simp [Slot.outlook, hcreate] <;> rfl

/-- Reaching a view leaves the outlook as it is. -/
lemma alike_reach (T : Toolkit σ) (i : Nat) (w : Wizard σ) : Alike T w (reach T i w).state := by
  have h := reached T i w
  generalize reach T i w = report at h
  cases h with
  | known => exact .refl T w
  | created hslot hcreate => exact alike_setView hslot hcreate
  | refused => exact .refl T w
  | missing => exact .refl T w

lemma blind_reach (T : Toolkit σ) (i : Nat) : Blind T (reach T i) := by
  intro w w' h
  refine ⟨?_, (alike_reach T i w).symm.trans (h.trans (alike_reach T i w'))⟩
  rw [result_reach, result_reach, h.outlook, h.samePlace.size]

lemma blind_turn (T : Toolkit σ) (occasion : Occasion) (i : Nat)
    (act : Stage → Attempt Remark (Scene σ) α) : Blind T (turn T occasion i act) := by
  refine (blind_reach T i).bind fun (panel, memory) w w' h => ?_
  dsimp only
  rw [h.env, h.navigation]
  exact ⟨rfl, (h.setView i _).outlook, rfl, rfl, h.index⟩

lemma blind_refresh (T : Toolkit σ) : Blind T refresh := by
  intro w w' h
  rw [refresh_apply, refresh_apply, h.env]
  cases w.env.refresh with
  | ok env => exact ⟨rfl, h.outlook, rfl, h.navigation, h.index⟩
  | error e => exact ⟨rfl, h⟩

lemma blind_canShow (T : Toolkit σ) (i : Nat) (visibleOnly : Bool) :
    Blind T (canShow T i visibleOnly) := by
  rw [T.canShow_eq]
  refine (blind_reach T i).bind fun (panel, memory) => ?_
  exact .get_bind (fun w w' h => by rw [h.env]) fun w => .pure _

/-! ### Calls -/

/-- Wizards that are alike belong together.  Their journals may differ: the one wizard makes a view
that the other has. -/
def alike (T : Toolkit σ) : Correspondence Event (Wizard σ) (Wizard σ) where
  state := Alike T
  journal _ _ := True
  journal_nil := trivial
  journal_append _ _ := trivial

lemma Blind.matches {m : Attempt Event (Wizard σ) α} (hm : Blind T m) : m.Matches (alike T) m :=
  fun w w' h => ⟨(hm w w' h).1, (hm w w' h).2, trivial⟩

lemma corresponds_alike (hT : T.ByName) : Corresponds (alike T) T T where
  face h := h.face
  arrive old? new h := h.arrive hT old? new
  setEnv _ h := ⟨h.outlook, rfl, h.navigation, h.index⟩
  setNavigation _ h := ⟨h.outlook, h.env, rfl, h.index⟩
  refresh := (blind_refresh T).matches
  canShow i visibleOnly := (blind_canShow T i visibleOnly).matches
  validate i := (blind_turn T .validating i _).matches
  commit i := (blind_turn T .committing i _).matches
  save i := (blind_turn T .saving i _).matches
  leave i := (blind_turn T .leaving i _).matches
  enter i := (blind_turn T .entering i _).matches
  record i := (blind_turn T .recording i _).matches

/-- **Every call comes to the same for wizards that are alike.** -/
theorem blind_perform (hT : T.ByName) (c : Call) : Blind T (c.perform T) := by
  intro w w' h
  have hperform := (corresponds_alike hT).perform c w w' h
  exact ⟨hperform.result, hperform.state⟩

/-! ### Questions -/

/-- To reach a view keeps a wizard like the one that it was before any views were made. -/
lemma admitsLooking_keeping (w₀ : Wizard σ) : AdmitsLooking T (.keeping (Alike T w₀)) :=
  .of_toolkit fun i w => obeys_keeping_iff.mpr fun h => h.trans (alike_reach T i w)

end Wizard

/-- The question is about the panels that are shown, so that no view has to act. -/
def Query.isIdle : Query → Bool
  | .isValid => false
  | _ => true

/-- The call only asks whether and where the wizard can go. -/
def Call.isIdle : Call → Bool
  | .ask q => q.isIdle
  | _ => false

namespace Wizard

variable {T : Toolkit σ} {w w' : Wizard σ}

/-- **Asking whether and where a wizard can go leaves it as it is**, but for views that are made on
the way, and even if one of them cannot be made. -/
lemma alike_of_idle {c : Call} (hc : c.isIdle = true) (w : Wizard σ) :
    Alike T w (c.perform T w).state := by
  have hlooking := admitsLooking_keeping (T := T) w
  suffices h : (c.perform T).Obeys (.keeping (Alike T w)) w from h.keeps (.refl T w)
  cases c with
  | ask q =>
    refine .map _ ?_
    cases q with
    | hasNext => exact hlooking.hasNext
    | hasPrevious => exact hlooking.hasPrevious
    | isLast => exact hlooking.isLast
    | isNextEnabled => exact hlooking.isNextEnabled
    | isPreviousEnabled => exact hlooking.isPreviousEnabled
    | isValid => cases hc
  | _ => cases hc

/-- What can be observed of a call: its result, and the wizard after it without its views. -/
structure Observation where
  /-- The call. -/
  call : Call
  /-- The answer, or the failure of the call. -/
  result : Except Failure Answer
  /-- What there is to the wizard after the call, apart from its views. -/
  face : Face

/-- What can be observed of all calls that do more than to ask where the wizard can go. -/
def observed (T : Crew σ) : List Call → Wizard σ → List Observation
  | [], _ => []
  | c :: cs, w =>
    let report := c.perform T w
    if c.isIdle then observed T cs report.state
    else ⟨c, report.result, report.state.face⟩ :: observed T cs report.state

/-- The calls that do more than to ask where the wizard can go. -/
def busy (calls : List Call) : List Call := calls.filter fun c => !c.isIdle

/-- **The questions may be left out**, for a wizard with whatever views of those in the outlook. -/
lemma observed_busy (hT : T.ByName) (calls : List Call) (h : Alike T w w') :
    observed T (busy calls) w' = observed T calls w ∧
      Alike T (session T calls w).state (session T (busy calls) w').state := by
  induction calls generalizing w w' with
  | nil => exact ⟨rfl, h⟩
  | cons c cs ih =>
    cases hc : c.isIdle with
    | true =>
      have hcalls : busy (c :: cs) = busy cs := List.filter_cons_of_neg (by simp [hc])
      rw [hcalls, observed]
      simp only [hc, if_true]
      exact ih ((alike_of_idle hc w).symm.trans h)
    | false =>
      have hcalls : busy (c :: cs) = c :: busy cs := List.filter_cons_of_pos (by simp [hc])
      obtain ⟨hresult, hstate⟩ := blind_perform hT c w w' h
      obtain ⟨hobserved, hsession⟩ := ih hstate
      rw [hcalls, observed, observed]
      simp only [hc, Bool.false_eq_true, if_false]
      rw [hresult, hstate.face, hobserved]
      exact ⟨rfl, hsession⟩

/-- **The making of views cannot be observed.**  Let views be made according to the id and the class
of their panels, or fail to be made.  Then two lists of calls that differ only in questions where
the wizard can go come to the same: every other call has the same result and leaves the wizard the
same but for its views, and in the end the views differ only in that some have not been made yet. -/
theorem observed_of_queries (hT : T.ByName) (w : Wizard σ) {calls calls' : List Call}
    (h : busy calls' = busy calls) :
    observed T calls' w = observed T calls w ∧
      Alike T (session T calls w).state (session T calls' w).state := by
  obtain ⟨hobserved, halike⟩ := observed_busy hT calls (.refl T w)
  obtain ⟨hobserved', halike'⟩ := observed_busy hT calls' (.refl T w)
  rw [h] at hobserved' halike'
  exact ⟨hobserved'.symm.trans hobserved, halike.trans halike'.symm⟩

/-- The toolkit that cannot make views for panels of the class `Broken`. -/
def fragile : Toolkit Unit :=
  { Toolkit.plain ∅ with
    create := fun p =>
      if p.className = "Broken" then .error (.panelView p.id "broken") else .ok () }

/-- A question that fails on the way, with the view of the hidden panel made but not the last one. -/
theorem observed_of_failedQuestion :
    let panels : List Panel :=
      [{ id := "a", className := "Text" }, { id := "h", className := "Text", visible := false },
        { id := "b", className := "Broken" }]
    let w : Wizard Unit := ofPanels panels {}
    let calls : List Call :=
      [.move (.next true), .ask .hasNext, .setNext false, .move (.goTo "a")]
    let calls' : List Call := [.move (.next true), .setNext false, .move (.goTo "a")]
    let entered := (SetupWizard.session fragile [.move (.next true)] w).state
    fragile.ByName ∧ busy calls' = busy calls ∧
      (Query.hasNext.perform fragile entered).result = .error (.panelView "b" "broken") ∧
      (SetupWizard.session fragile calls w).state.hasView 1 = true ∧
      (SetupWizard.session fragile calls' w).state.hasView 1 = false ∧
      observed fragile calls' w = observed fragile calls w := by
  intro panels w calls calls' entered
  have hname : fragile.ByName := by
    intro p q hid hclass
    simp only [fragile, hid, hclass]
  have hbusy : busy calls' = busy calls := rfl
  have hfailed : (Query.hasNext.perform fragile entered).result =
      .error (.panelView "b" "broken") := by decide +kernel
  exact ⟨hname, hbusy, hfailed, by decide +kernel, by decide +kernel,
    (observed_of_queries hname w hbusy).1⟩

/-- A view that adds a derivation when it is asked whether it agrees to being shown can be told from
the environment to have been asked, be it only to answer a question.  And if no view of the second
panel can be made from some moment on, it matters whether the panel has been asked about before. -/
theorem observed_ne_of_query :
    let panels : List Panel := [{ id := "a", className := "Text" }, { id := "b", className := "Text" }]
    let w : Wizard Unit := ofPanels panels {}
    let curious : Crew Unit :=
      { create := fun _ => .ok (), asked := fun _ _ _ => [{ name := "ASKED", expression := "1" }] }
    let able : Crew Unit := Toolkit.plain ∅
    let unable : Crew Unit :=
      { create := fun p => if p.id = "b" then .error (.panelView p.id "broken") else .ok () }
    let entered (calls : List Call) := (SetupWizard.session able (.move (.next true) :: calls) w).state
    (curious.ByName ∧ busy [.ask .hasNext, .setNext true] = busy [.setNext true] ∧
      observed curious [.ask .hasNext, .setNext true] w ≠ observed curious [.setNext true] w) ∧
    able.ByName ∧ unable.ByName ∧
      observed unable [.move (.next true)] (entered [.ask .hasNext]) ≠
        observed unable [.move (.next true)] (entered []) := by
  intro panels w curious able unable entered
  refine ⟨⟨fun _ _ _ _ => rfl, rfl, fun heq => ?_⟩, fun _ _ _ _ => rfl, fun p q hid _ => ?_,
    fun heq => ?_⟩
  · have hadded := congrArg (List.map fun o => o.face.env.derivations.length) heq
    revert hadded
    decide
  · simp only [unable, hid]
  · have hresult := congrArg (List.map fun o => o.result.isOk) heq
    revert hresult
    decide

end Wizard

end SetupWizard
