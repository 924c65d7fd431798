/-
# One view for each panel

A wizard makes the view of a panel when it first needs it and keeps it from then on.  To make a view
may fail, and then it may be tried again; but once it has been made, the crew is never asked for
it again.  This is a law for everything that a wizard does (`making`), and it does not depend on the
crew: views keep to it even if the crew is another one for each call (`sessions`).

A panel is entered only when its view has been reached, so the visited panels all have their views.
The record of a run is put together from these, which cannot fail and changes nothing
(`views_of_sessions`).
-/
import SetupWizard.Proofs.Session

namespace SetupWizard

open Attempt

variable {σ α : Type}

/-- Once a view has been made in one entry, it is not asked for again in a later one. -/
def Event.Spares (earlier later : Event) : Prop :=
  ∀ i, earlier = .created i → later ≠ .created i ∧ later ≠ .refused i

/-- Sessions one after the other, each with a crew of its own. -/
def sessions : List (Crew σ × List Call) → Step Exchange (Wizard σ) Unit
  | [] => pure ()
  | (T, calls) :: rest => do
    session T calls
    sessions rest

/-- What a wizard put down in the course of some calls. -/
def events (exchanges : List Exchange) : List Event := exchanges.flatMap Exchange.journal

lemma sessions_append (first second : List (Crew σ × List Call)) :
    sessions (first ++ second) = (do
      sessions first
      sessions second) := by
  induction first with
  | nil => exact (pure_bind () fun _ => sessions second).symm
  | cons stretch rest ih =>
    rw [List.cons_append, sessions, sessions, ih, bind_assoc]

/-- The target of a call was entered in it. -/
lemma mem_entered_of_target {e : Exchange} {i : Nat} (h : e.target? = some i) :
    i ∈ entered e.journal := by
  unfold Exchange.target? at h
  split at h
  · exact List.mem_of_getLast? h
  · cases h

lemma mem_entered_of_targets {exchanges : List Exchange} {i : Nat} (h : i ∈ targets exchanges) :
    i ∈ entered (events exchanges) := by
  obtain ⟨e, he, hi⟩ := List.mem_filterMap.mp h
  obtain ⟨event, hevent, hentered⟩ := List.mem_filterMap.mp (mem_entered_of_target hi)
  exact List.mem_filterMap.mpr ⟨event, List.mem_flatMap.mpr ⟨e, he, hevent⟩, hentered⟩

namespace Wizard

variable {T : Crew σ} {w w' w'' : Wizard σ} {i : Nat} {js ks : List Event}

/-! ### Having a view -/

lemma hasView_iff : w.hasView i = true ↔
    ∃ panel memory, w.slots[i]? = some ⟨panel, some memory⟩ := by
  unfold hasView
  cases w.slots[i]? with
  | none => simp
  | some slot =>
    obtain ⟨panel, view?⟩ := slot
    cases view? with
    | none => simp
    | some memory => simp

/-- A view whose memory is set is there, and so are those that were there before. -/
lemma hasView_setView (memory : σ) (hi : i < w.size) (j : Nat) :
    (w.setView i memory).hasView j = true ↔ w.hasView j = true ∨ j = i := by
  have hslot : (w.setView i memory).slots[j]? = _ := getElem?_slots_setView i memory w j
  unfold hasView
  rw [hslot]
  by_cases h : i = j
  · subst h
    simp [List.getElem?_eq_getElem (show i < w.slots.length from hi)]
  · have h' : j ≠ i := fun hji => h hji.symm
    cases w.slots[j]? <;> simp [h, h']

@[simp] lemma hasView_arrive (old? : Option Nat) (new : Nat) (w : Wizard σ) (i : Nat) :
    (arrive old? new w).hasView i = w.hasView i := by
  unfold hasView
  rw [getElem?_slots_arrive]
  cases w.slots[i]? <;> rfl

@[simp] lemma hasView_ofPanels (panels : List Panel) (env : Environment) (i : Nat) :
    (ofPanels panels env : Wizard σ).hasView i = false := by
  unfold hasView ofPanels
  dsimp only
  rw [List.getElem?_map]
  cases panels[i]? <;> rfl

lemma lt_size_of_hasView (h : w.hasView i = true) : i < w.size := by
  obtain ⟨panel, memory, hslot⟩ := hasView_iff.mp h
  exact (List.getElem?_eq_some_iff.mp hslot).1

/-- To give a view the memory that it has changes nothing. -/
lemma setView_self {panel : Panel} {memory : σ} (h : w.slots[i]? = some ⟨panel, some memory⟩) :
    w.setView i memory = w := by
  suffices hslots : (w.setView i memory).slots = w.slots from
    congrArg (fun slots => { w with slots }) hslots
  refine List.ext_getElem? fun j => ?_
  rw [getElem?_slots_setView]
  by_cases hij : i = j
  · subst hij
    simp [h]
  · simp [hij]

/-! ### Making views -/

/-- What happens to the views while a wizard goes from one state to another and puts something
down in its journal. -/
structure Made (w : Wizard σ) (js : List Event) (w' : Wizard σ) : Prop where
  /-- There are the views that were there before and those that have been made. -/
  hasView (i : Nat) : w'.hasView i = true ↔ w.hasView i = true ∨ .created i ∈ js
  /-- A view that was there before is not asked for. -/
  idle (i : Nat) : w.hasView i = true → .created i ∉ js ∧ .refused i ∉ js
  /-- A view that has been made is not asked for again. -/
  once : js.Pairwise Event.Spares
  /-- Panels that were entered have their views. -/
  entered (i : Nat) : i ∈ entered js → w'.hasView i = true

namespace Made

/-- Where the crew is asked for nothing, the views stay the same. -/
lemma of_quiet (hjs : ∀ e ∈ js, ∀ i, e ≠ .created i ∧ e ≠ .refused i)
    (hviews : ∀ i, w'.hasView i = w.hasView i)
    (hentered : ∀ i ∈ SetupWizard.entered js, w.hasView i = true) : Made w js w' where
  hasView i := by
    have hcreated : .created i ∉ js := fun h => (hjs _ h i).1 rfl
    simp [hviews, hcreated]
  idle i _ := ⟨fun h => (hjs _ h i).1 rfl, fun h => (hjs _ h i).2 rfl⟩
  once := List.pairwise_of_forall_mem_list fun _ _ _ he' i _ => hjs _ he' i
  entered i hi := (hviews i).trans (hentered i hi)

lemma silent (hviews : ∀ i, w'.hasView i = w.hasView i) : Made w [] w' :=
  of_quiet (fun _ h => absurd h List.not_mem_nil) hviews fun _ h => absurd h List.not_mem_nil

lemma refl (w : Wizard σ) : Made w [] w := silent fun _ => rfl

/-- A view that is there stays. -/
lemma keeps (h : Made w js w') (hi : w.hasView i = true) : w'.hasView i = true :=
  (h.hasView i).mpr (.inl hi)

lemma trans (h : Made w js w') (h' : Made w' ks w'') : Made w (js ++ ks) w'' where
  hasView i := by rw [h'.hasView, h.hasView, or_assoc, List.mem_append]
  idle i hi := by
    obtain ⟨hcreated, hrefused⟩ := h.idle i hi
    obtain ⟨hcreated', hrefused'⟩ := h'.idle i (h.keeps hi)
    simp [hcreated, hrefused, hcreated', hrefused']
  once := by
    refine List.pairwise_append.mpr ⟨h.once, h'.once, fun e he e' he' i hi => ?_⟩
    -- What was made in the first part is there when the second begins.
    obtain ⟨hcreated, hrefused⟩ := h'.idle i ((h.hasView i).mpr (.inr (hi ▸ he)))
    exact ⟨fun h => hcreated (h ▸ he'), fun h => hrefused (h ▸ he')⟩
  entered i hi := by
    rw [entered_append, List.mem_append] at hi
    rcases hi with hi | hi
    · exact h'.keeps (h.entered i hi)
    · exact h'.entered i hi

end Made

/-- The law that the place is kept and every view is made only once. -/
def making : Law Event (Wizard σ) where
  ok w js w' := SamePlace w w' ∧ Made w js w'
  err _ w js w' := SamePlace w w' ∧ Made w js w'
  ok_refl w := ⟨.refl w, .refl w⟩
  ok_trans h h' := ⟨h.1.trans h'.1, h.2.trans h'.2⟩
  err_trans h h' := ⟨h.1.trans h'.1, h.2.trans h'.2⟩

lemma made_of_obeys {m : Attempt Event (Wizard σ) α} (hm : m.Obeys making w) :
    Made w (m w).journal (m w).state := ((obeys_iff_ok fun _ => rfl).mp hm).2

lemma hasView_of_reach {panel : Panel} {memory : σ}
    (h : reach T i w = ⟨.ok (panel, memory), w', js⟩) : w'.hasView i = true := by
  have hreached := reached T i w
  rw [h] at hreached
  cases hreached with
  | known hslot => exact hasView_iff.mpr ⟨_, _, hslot⟩
  | created hslot =>
    have hi : i < w.size := (List.getElem?_eq_some_iff.mp hslot).1
    exact (hasView_setView memory hi i).mpr (.inr rfl)

/-- **To reach a view** makes it, unless it is there already. -/
lemma making_reach : (reach T i).Obeys making w := by
  have hreached := reached T i w
  unfold Obeys
  generalize reach T i w = report at hreached
  -- Where the crew is asked for a view, there was none.
  have hnone {panel : Panel} (hslot : w.slots[i]? = some ⟨panel, none⟩) : w.hasView i = false := by
    unfold hasView
    rw [hslot]
    rfl
  cases hreached with
  | known => exact ⟨.refl w, .refl w⟩
  | @created panel memory hslot =>
    have hi : i < w.size := (List.getElem?_eq_some_iff.mp hslot).1
    refine ⟨samePlace_setView i memory w, ⟨fun j => ?_, fun j hj => ?_, ?_, ?_⟩⟩
    · rw [hasView_setView memory hi, List.mem_singleton, Event.created.injEq]
    · have hji : j ≠ i := by
        rintro rfl
        rw [hnone hslot] at hj
        cases hj
      simp [hji]
    · exact List.pairwise_singleton _ _
    · exact fun _ h => absurd h List.not_mem_nil
  | @refused panel failure hslot =>
    refine ⟨.refl w, ⟨fun j => ?_, fun j hj => ?_, ?_, ?_⟩⟩
    · simp
    · have hji : j ≠ i := by
        rintro rfl
        rw [hnone hslot] at hj
        cases hj
      simp [hji]
    · exact List.pairwise_singleton _ _
    · exact fun _ h => absurd h List.not_mem_nil
  | missing => exact ⟨.refl w, .refl w⟩

lemma making_refresh : refresh.Obeys making w := by
  have hquiet : Made w (.refreshed w.env :: w.env.evaluations.map fun e =>
      Event.remarked (.evaluated e)) w := by
    refine .of_quiet (fun e he i => ?_) (fun _ => rfl) fun j hj => ?_
    · rcases List.mem_cons.mp he with rfl | he
      · simp
      · obtain ⟨expression, -, rfl⟩ := List.mem_map.mp he
        simp
    · rw [entered_refreshed] at hj
      cases hj
  rw [Obeys, refresh_apply]
  cases w.env.refresh with
  | ok env => exact ⟨⟨rfl, rfl⟩, hquiet.hasView, hquiet.idle, hquiet.once, hquiet.entered⟩
  | error e => exact ⟨.refl w, hquiet⟩

/-- A view that acts is the one of the panel that is turned to; no other is made. -/
lemma made_of_act (hi : w.hasView i = true) (occasion : Occasion) (scene : Scene σ)
    (remarks : List Remark) :
    Made w (.turned occasion i w.env :: remarks.map .remarked)
      { w.setView i scene.memory with env := scene.env, navigation := scene.navigation } := by
  refine .of_quiet (fun e he j => ?_) (fun j => ?_) fun j hj => ?_
  · rcases List.mem_cons.mp he with rfl | he
    · simp
    · obtain ⟨remark, -, rfl⟩ := List.mem_map.mp he
      simp
  · have hviews := hasView_setView scene.memory (lt_size_of_hasView hi) j
    refine Bool.eq_iff_iff.mpr (hviews.trans (or_iff_left_of_imp ?_))
    rintro rfl
    exact hi
  · by_cases hentering : occasion = .entering
    · subst hentering
      rw [entered_entering, entered_map_remarked, List.mem_singleton] at hj
      exact hj ▸ hi
    · rw [entered_turned hentering] at hj
      cases hj

lemma making_turn {occasion : Occasion} {act : Stage → Attempt Remark (Scene σ) α} :
    (turn T occasion i act).Obeys making w := by
  refine .bind making_reach fun (panel, memory) v _ hreach _ => ?_
  have hact := made_of_act (hasView_of_reach hreach) occasion
    (act ⟨panel, T.catalog⟩ ⟨memory, v.env, v.navigation⟩).state
    (act ⟨panel, T.catalog⟩ ⟨memory, v.env, v.navigation⟩).journal
  exact (obeys_iff_ok fun _ => rfl).mpr ⟨⟨panels_setView .., rfl⟩, hact⟩

lemma governs_making (T : Crew σ) : Governs T making where
  samePlace h := h.1
  samePlace_of_err h := h.1
  reach _ := making_reach
  inquire visibleOnly panel memory := obeys_inquire visibleOnly panel memory _
    ⟨⟨rfl, rfl⟩, .silent fun _ => rfl⟩
  refresh := making_refresh
  validate _ := making_turn
  commit _ := making_turn
  save _ := making_turn
  leave _ := making_turn
  enter _ := making_turn
  record _ := making_turn

/-! ### Sessions -/

lemma made_of_moved {P : Nat → Prop} {report : Report Event (Wizard σ) (Except Failure Bool)}
    (h : Moved making w P report) : Made w report.journal report.state := by
  cases h with
  | stayed hok => exact hok.2
  | failed herr => exact herr.2
  | arrived _ _ _ hok =>
    obtain ⟨-, hviews, hidle, honce, hentered⟩ := hok
    -- The panels are marked anew, which is nothing to their views.
    refine ⟨fun i => ?_, hidle, honce, fun i hi => ?_⟩
    · rw [hasView_arrive]
      exact hviews i
    · rw [hasView_arrive]
      exact hentered i hi

/-- No call makes a view that there is. -/
lemma made_perform (T : Crew σ) (hw : w.InBounds) (c : Call) :
    Made w (c.perform T w).journal (c.perform T w).state := by
  have h := governs_making T
  cases c with
  | move m =>
    have hperform : (Call.move m).perform T w = _ := bind_pure_apply (m.perform T) Answer.flag w
    rw [hperform]
    exact made_of_moved (h.perform hw m)
  | ask q => exact made_of_obeys (.map _ (h.ask hw q))
  | act i validate =>
    cases validate with
    | true => exact made_of_obeys (.map _ making_turn)
    | false => exact made_of_obeys (.map _ making_turn)
  | record => exact made_of_obeys (.map _ h.installationRecord)
  | setNext open' => exact .silent fun _ => rfl
  | setPrevious open' => exact .silent fun _ => rfl
  | adjust f => exact .silent fun _ => rfl

lemma made_session (T : Crew σ) (calls : List Call) (hw : w.InBounds) :
    Made w (events (session T calls w).journal) (session T calls w).state := by
  induction calls generalizing w with
  | nil => exact .refl w
  | cons c cs ih => exact (made_perform T hw c).trans (ih ((placed T hw c).inBounds hw))

/-- Any number of sessions make each view only once, and the trail goes on through them. -/
lemma made_sessions (stretches : List (Crew σ × List Call)) {ts : List Nat}
    (htrail : Trail w ts) :
    Made w (events (sessions stretches w).journal) (sessions stretches w).state ∧
      Trail (sessions stretches w).state (ts ++ targets (sessions stretches w).journal) := by
  induction stretches generalizing w ts with
  | nil => exact ⟨.refl w, by simpa [sessions] using htrail⟩
  | cons stretch rest ih =>
    obtain ⟨T, calls⟩ := stretch
    obtain ⟨hmade, htrail'⟩ := ih (htrail.session calls)
    have hfirst := made_session T calls htrail.inBounds
    constructor
    · simpa [sessions, events] using hfirst.trans hmade
    · simpa [sessions, targets] using htrail'

/-! ### The record -/

/-- **Panels that have their views can be recorded**, and nothing changes by it, except that the
views may add derivations. -/
lemma recordAt_of_hasView {is : List Nat} (his : ∀ i ∈ is, w.hasView i = true) :
    ∃ records added js,
      recordAt T is w = ⟨.ok records, w.mapEnv (·.addDerivations added), js⟩ ∧
      (∀ i, .created i ∉ js ∧ .refused i ∉ js) ∧
      is.map (fun i => (w.panel? i).map Panel.id) = records.map (fun r => some r.panel) ∧
      ((∀ stage scene, T.recorded stage scene = []) → added = []) := by
  induction is generalizing w with
  | nil =>
    have hsame : w.mapEnv (·.addDerivations []) = w := by simp [mapEnv]
    exact ⟨[], [], [], by rw [hsame]; rfl, by simp, rfl, fun _ => rfl⟩
  | cons i is ih =>
    rw [List.forall_mem_cons] at his
    obtain ⟨panel, memory, hslot⟩ := hasView_iff.mp his.1
    have hreach : reach T i w = ⟨.ok (panel, memory), w, []⟩ := by rw [reach_apply, hslot]
    have hpanel : w.panel? i = some panel := by
      rw [panel?_eq, hslot]
      rfl
    -- The view is only looked at: its memory and all but the derivations stay as they are.
    obtain ⟨record, first, hturn, hid, hfirst⟩ : ∃ (record : PanelRecord) (first : List Derivation),
        turn T .recording i (recordOf T) w =
          ⟨.ok record, w.mapEnv (·.addDerivations first), [.turned .recording i w.env]⟩ ∧
        record.panel = panel.id ∧ ((∀ stage scene, T.recorded stage scene = []) → first = []) := by
      let scene : Scene σ := ⟨memory, w.env, w.navigation⟩
      refine ⟨⟨panel.id, T.hooks.recordData ⟨panel, T.catalog⟩ scene⟩,
        T.recorded ⟨panel, T.catalog⟩ scene, ?_, rfl, fun hquiet => hquiet _ _⟩
      rw [turn_of_reach hreach, recordOf_apply]
      dsimp only
      rw [setView_self hslot]
      rfl
    obtain ⟨records, rest, js, hrecords, hviews, hids, hrest⟩ :=
      ih (w := w.mapEnv (·.addDerivations first)) his.2
    have hadded : (w.mapEnv (·.addDerivations first)).mapEnv (·.addDerivations rest) =
        w.mapEnv (·.addDerivations (first ++ rest)) := by
      simp [mapEnv, Environment.addDerivations]
    rw [hadded] at hrecords
    refine ⟨record :: records, first ++ rest, .turned .recording i w.env :: js, ?_, ?_, ?_, ?_⟩
    · rw [recordAt, bind_of_ok hturn, bind_pure_apply, hrecords]
      rfl
    · simpa using hviews
    · rw [List.map_cons, List.map_cons, hpanel, hid]
      exact congrArg (_ :: ·) hids
    · exact fun hquiet => by rw [hfirst hquiet, hrest hquiet, List.append_nil]

lemma sorted_visitedPositions (w : Wizard σ) : w.visitedPositions.Pairwise (· < ·) :=
  List.pairwise_lt_range.filter _

/-- The visited panels end with the current one. -/
lemma Trail.getLast?_visitedPositions {ts : List Nat} (h : Trail w ts) :
    w.visitedPositions.getLast? = w.index? := by
  rw [h.index]
  cases hc : ts.getLast? with
  | none =>
    obtain rfl : ts = [] := List.getLast?_eq_none_iff.mp hc
    refine List.getLast?_eq_none_iff.mpr (List.eq_nil_iff_forall_not_mem.mpr fun i hi => ?_)
    exact not_marked_nil i ((h.visited i).mp hi)
  | some c =>
    have hmem : c ∈ w.visitedPositions := (h.visited c).mpr (marked_getLast hc)
    obtain ⟨init, last, hinit⟩ : ∃ init last, w.visitedPositions = init ++ [last] :=
      ⟨_, _, (List.dropLast_concat_getLast (List.ne_nil_of_mem hmem)).symm⟩
    have hlast : last ∈ w.visitedPositions := hinit ▸ List.mem_concat_self
    have hle : last ≤ c := ((h.visited last).mp hlast).le_getLast hc
    have hsorted := sorted_visitedPositions w
    rw [hinit] at hmem hsorted ⊢
    rw [List.getLast?_concat]
    -- The current panel is visited, and there is none behind it.
    rcases List.mem_append.mp hmem with hmem | hmem
    · have hlt : c < last :=
        (List.pairwise_append.mp hsorted).2.2 c hmem last (List.mem_singleton_self last)
      omega
    · rw [List.mem_singleton.mp hmem]

/-- **One view for each panel.**  A wizard none of whose panels is visited is called on in any
order, with any crews: each of them may fail to make views, and another may take its place
between any two calls.  Then no view is asked for again once it has been made; there are exactly the
views that were made, and none is ever given up; and every visited panel has its view.  So whatever
the crew is now, the visited panels can be recorded.  For this no view is made or tried to be
made, and nothing changes, except for derivations that the views add when they are asked for their
data; the record has the ids of the visited panels in ascending order, and ends with that of the
current panel, if there is one. -/
theorem views_of_sessions (panels : List Panel) (env : Environment)
    (hpanels : ∀ p ∈ panels, p.visited = false)
    (earlier later : List (Crew σ × List Call)) :
    let before := sessions earlier (ofPanels panels env)
    let after := sessions (earlier ++ later) (ofPanels panels env)
    let w := after.state
    (events after.journal).Pairwise Event.Spares ∧
      (∀ i, w.hasView i = true ↔ .created i ∈ events after.journal) ∧
      (∀ i, before.state.hasView i = true → w.hasView i = true) ∧
      (∀ i ∈ w.visitedPositions, w.hasView i = true) ∧
      ∀ T : Crew σ, ∃ records added js,
        installationRecord T w = ⟨.ok records, w.mapEnv (·.addDerivations added), js⟩ ∧
        ((∀ stage scene, T.recorded stage scene = []) → added = []) ∧
        (∀ i, .created i ∉ js ∧ .refused i ∉ js) ∧
        w.visitedPositions.map (fun i => (w.panel? i).map Panel.id) =
          records.map (fun r => some r.panel) ∧
        w.visitedPositions.Pairwise (· < ·) ∧ w.visitedPositions.getLast? = w.index? := by
  intro before after w
  obtain ⟨hmade, htrail⟩ := made_sessions (earlier ++ later) (trail_ofPanels hpanels env)
  obtain ⟨-, htrail₁⟩ := made_sessions earlier (trail_ofPanels hpanels env)
  have hkeeps := (made_sessions later htrail₁).1
  have hstate : w = (sessions later before.state).state :=
    congrArg (fun m : Step Exchange (Wizard σ) Unit => (m (ofPanels panels env)).state)
      (sessions_append earlier later)
  have hviews (i : Nat) (hi : i ∈ w.visitedPositions) : w.hasView i = true := by
    obtain ⟨front, rest, hts, -⟩ := (htrail.visited i).mp hi
    have htarget : i ∈ targets after.journal := by
      rw [List.nil_append] at hts
      rw [hts]
      exact List.mem_append_right front List.mem_cons_self
    exact hmade.entered i (mem_entered_of_targets htarget)
  refine ⟨hmade.once, fun i => ?_, fun i hi => hstate ▸ hkeeps.keeps hi, hviews, fun T => ?_⟩
  · have hview := hmade.hasView i
    rw [hasView_ofPanels] at hview
    exact hview.trans (or_iff_right Bool.false_ne_true)
  · obtain ⟨records, added, js, hrecords, hjs, hids, hadded⟩ := recordAt_of_hasView (T := T) hviews
    exact ⟨records, added, js, hrecords, hadded, hjs, hids, sorted_visitedPositions w,
      htrail.getLast?_visitedPositions⟩

/-- The view of the second panel cannot be made at first.  Once it has been made by another crew,
even the first one can record it. -/
theorem views_of_second_try :
    let broken : Crew Unit :=
      { create := fun p =>
          if p.id = "finish" then .error (.panelView p.id "no display") else .ok () }
    let panels : List Panel :=
      [{ id := "welcome", className := "Text" }, { id := "finish", className := "Text" }]
    let earlier : List (Crew Unit × List Call) :=
      [(broken, [.move (.next true), .move (.next true)])]
    let later : List (Crew Unit × List Call) := [(Toolkit.plain ∅, [.move (.next true)])]
    let before := (sessions earlier (ofPanels panels {})).state
    let w := (sessions (earlier ++ later) (ofPanels panels {})).state
    (∀ p ∈ panels, p.visited = false) ∧ before.hasView 0 = true ∧ before.hasView 1 = false ∧
      w.hasView 0 = true ∧ w.hasView 1 = true ∧ w.index? = some 1 ∧
      ∃ records js, installationRecord broken w = ⟨.ok records, w, js⟩ ∧
        records.map (fun r => some r.panel) = [some "welcome", some "finish"] := by
  intro broken panels earlier later before w
  have hpanels : ∀ p ∈ panels, p.visited = false := by decide
  have hfirst : before.hasView 0 = true := by decide
  have hmissing : before.hasView 1 = false := by decide
  have hmade : w.hasView 1 = true := by decide
  have hids : w.visitedPositions.map (fun i => (w.panel? i).map Panel.id) =
      [some "welcome", some "finish"] := by decide
  obtain ⟨-, -, hkept, -, hrecord⟩ := views_of_sessions panels {} hpanels earlier later
  obtain ⟨records, added, js, hok, hadded, -, hrecorded, -⟩ := hrecord broken
  have hsame : w.mapEnv (·.addDerivations added) = w := by
    rw [hadded fun _ _ => rfl]
    simp [mapEnv]
  rw [hsame] at hok
  exact ⟨hpanels, hfirst, hmissing, hkept 0 hfirst, hmade, by decide, records, js, hok,
    hrecorded.symm.trans hids⟩

end Wizard

end SetupWizard
