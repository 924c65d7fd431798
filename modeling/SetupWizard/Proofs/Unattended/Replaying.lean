/-
# Going through a record by hand

A wizard whose views replay a record need not be run unattended: it can be moved forward and back
and to any panel.  Whatever way it is moved, a variable has the value that the panel entered last
among those with data for it gives it, and is blocked, so that no refresh has a say in it; and
these are the values that are recorded (`answers_of_session`).
-/
import Mathlib.Data.List.Forall2
import SetupWizard.Proofs.Session
import SetupWizard.Proofs.Unattended.Reproduction

namespace SetupWizard

open Attempt

/-- The panels that were entered in the course of some calls, in order. -/
def activated (exchanges : List Exchange) : List Nat :=
  exchanges.flatMap fun e => entered e.journal

/-- A call that leaves the store alone, apart from what it makes the wizard do. -/
def Call.SparesStore : Call → Prop
  | .adjust f => ∀ env, (f env).store = env.store
  | _ => True

/-- The value for a variable in the data of the panel that was entered last among those with data
for it. -/
def Replay.Latest (R : List PanelRecord) (panels : List Panel) (trail : List Nat)
    (n value : String) : Prop :=
  ∃ earlier i later p, trail = earlier ++ i :: later ∧ panels[i]? = some p ∧
    (answersOf R p.id)[n]? = some value ∧
    ∀ j ∈ later, ∀ q, panels[j]? = some q → (answersOf R q.id)[n]? = none

namespace Wizard

variable {d : Definition} {R : List PanelRecord} {catalog : Catalog} {trail : List Nat}
  {w w' : Wizard Texts} {i : Nat} {js : List Event}

/-! ### What is kept up -/

/-- A wizard replays a record for the panels of a definition: its views have the answers for their
panels, the visited panels are among those that have been entered, and what these have given is
kept. -/
structure Replays (d : Definition) (R : List PanelRecord) (trail : List Nat) (w : Wizard Texts) :
    Prop where
  ids (i : Nat) : (w.panel? i).map Panel.id = (d.panels[i]?).map Panel.id
  memory {i : Nat} {panel : Panel} {memory : Texts} :
    w.slots[i]? = some ⟨panel, some memory⟩ → memory = Replay.answersOf R panel.id
  visited (i : Nat) : i ∈ w.visitedPositions → i ∈ trail
  keeps : Course.Keeps d (Replay.answersOf R) ⟨trail, w.env⟩

namespace Replays

lemma exists_panel (h : Replays d R trail w) {panel : Panel} (hi : w.panel? i = some panel) :
    ∃ p, d.panels[i]? = some p ∧ p.id = panel.id := by
  have hid := h.ids i
  rw [hi, Option.map_some, eq_comm, Option.map_eq_some_iff] at hid
  exact hid

/-- A view that is given the answers for its panel. -/
lemma setView (h : Replays d R trail w) {panel : Panel} {view? : Option Texts}
    (hslot : w.slots[i]? = some ⟨panel, view?⟩) :
    Replays d R trail (w.setView i (Replay.answersOf R panel.id)) := by
  have hplace := samePlace_setView i (Replay.answersOf R panel.id) w
  refine ⟨fun j => ?_, fun {j panel' memory} hmemory => ?_, fun j hj => ?_, h.keeps⟩
  · rw [hplace.panel?]
    exact h.ids j
  · rw [getElem?_slots_setView] at hmemory
    by_cases hij : i = j
    · subst hij
      rw [hslot, Option.map_some, if_pos rfl] at hmemory
      cases hmemory
      rfl
    · have hother : w.slots[j]? = some ⟨panel', some memory⟩ := by simpa [hij] using hmemory
      exact h.memory hother
  · rw [hplace.visitedPositions] at hj
    exact h.visited j hj

/-- Another environment whose store respects what is blocked. -/
lemma withEnv (h : Replays d R trail w) {env : Environment} (navigation : Navigation)
    (hstore : w.env.store.Respects env.store) : Replays d R trail { w with env, navigation } :=
  ⟨h.ids, h.memory, h.visited, h.keeps.of_respects rfl hstore⟩

/-- A panel that is entered gives its data. -/
lemma give (h : Replays d R trail w) {panel : Panel} (navigation : Navigation)
    (hi : w.panel? i = some panel) :
    Replays d R (trail ++ [i])
      { w with
        env := w.env.mapStore
          (Replay.give (Replay.answersOf R panel.id).toList panel.id)
        navigation } := by
  obtain ⟨p, hp, hid⟩ := h.exists_panel hi
  have hsupply : w.env.mapStore (Replay.give (Replay.answersOf R panel.id).toList panel.id) =
      d.supply (Replay.answersOf R) i w.env := by
    rw [Definition.supply, hp, ← hid]
  rw [hsupply]
  exact ⟨h.ids, h.memory, fun j hj => List.mem_append_left [i] (h.visited j hj), h.keeps.enter i⟩

/-- Arriving at a panel that has been entered. -/
lemma arrive (h : Replays d R trail w) (old? : Option Nat) {new : Nat} (hnew : new < w.size)
    (hmem : new ∈ trail) : Replays d R trail (arrive old? new w) := by
  refine ⟨fun j => ?_, fun {j panel memory} hslot => ?_, fun j hj => ?_, ?_⟩
  · rw [panel?_arrive, Option.map_map]
    exact h.ids j
  · rw [getElem?_slots_arrive, Option.map_eq_some_iff] at hslot
    obtain ⟨⟨panel', view?⟩, hslot', hpanel⟩ := hslot
    cases hpanel
    have hmemory : memory = Replay.answersOf R panel'.id := h.memory hslot'
    exact hmemory
  · rcases (mem_visitedPositions_arrive hnew).mp hj with rfl | ⟨hj, -⟩
    · exact hmem
    · exact h.visited j hj
  · rw [env_arrive]
    exact h.keeps

lemma ofPanels {panels : List Panel} (hpanels : ∀ p ∈ panels, p.visited = false)
    (env : Environment) : Replays { panels } R [] (ofPanels panels env) := by
  refine ⟨fun j => ?_, fun {j panel memory} hslot => ?_, fun j hj => ?_, fun n value hn => ?_⟩
  · rw [panel?, panels_ofPanels]
  · rw [Wizard.ofPanels, List.getElem?_map, Option.map_eq_some_iff] at hslot
    obtain ⟨p, -, hslot⟩ := hslot
    cases hslot
  · obtain ⟨p, hp, hvisited⟩ := mem_visitedPositions.mp hj
    rw [panel?, panels_ofPanels] at hp
    have hunvisited := hpanels p (List.mem_of_getElem? hp)
    rw [hvisited] at hunvisited
    cases hunvisited
  · cases hn

end Replays

/-! ### The law of replaying -/

/-- The place is kept, and a wizard that replays a record goes on doing so with the panels that are
entered. -/
structure GoesOn (d : Definition) (R : List PanelRecord) (w : Wizard Texts) (js : List Event)
    (w' : Wizard Texts) : Prop where
  samePlace : SamePlace w w'
  replays {trail : List Nat} : Replays d R trail w → Replays d R (trail ++ entered js) w'

lemma GoesOn.refl (w : Wizard Texts) : GoesOn d R w [] w :=
  ⟨.refl w, fun {trail} h => (List.append_nil trail).symm ▸ h⟩

lemma GoesOn.trans {w'' : Wizard Texts} {ks : List Event} (h : GoesOn d R w js w')
    (h' : GoesOn d R w' ks w'') : GoesOn d R w (js ++ ks) w'' := by
  refine ⟨h.samePlace.trans h'.samePlace, fun {trail} hw => ?_⟩
  rw [entered_append, ← List.append_assoc]
  exact h'.replays (h.replays hw)

/-- The law that replaying goes on, in success and in failure. -/
def replaying (d : Definition) (R : List PanelRecord) : Law Event (Wizard Texts) where
  ok := GoesOn d R
  err _ := GoesOn d R
  ok_refl := GoesOn.refl
  ok_trans := GoesOn.trans
  err_trans := GoesOn.trans

lemma obeys_replaying {α : Type} {m : Attempt Event (Wizard Texts) α} :
    m.Obeys (replaying d R) w ↔ GoesOn d R w (m w).journal (m w).state :=
  obeys_iff_ok fun _ => rfl

/-- What is known of a view that has been reached. -/
lemma goesOn_of_reach {panel : Panel} {memory : Texts}
    (h : reach (Replay.toolkit R catalog) i w = ⟨.ok (panel, memory), w', js⟩) :
    GoesOn d R w js w' ∧ entered js = [] ∧ w'.slots[i]? = some ⟨panel, some memory⟩ ∧
      w'.env = w.env := by
  have hreached := reached (Replay.toolkit R catalog) i w
  rw [h] at hreached
  cases hreached with
  | known hslot => exact ⟨.refl w, rfl, hslot, rfl⟩
  | created hslot hcreate =>
    obtain rfl : Replay.answersOf R panel.id = memory := Except.ok.inj hcreate
    refine ⟨⟨samePlace_setView i _ w, fun {trail} hw => ?_⟩, rfl, ?_, rfl⟩
    · exact (List.append_nil trail).symm ▸ hw.setView hslot
    · rw [getElem?_slots_setView, hslot, Option.map_some, if_pos rfl]

lemma goesOn_of_failed_reach {failure : Failure}
    (h : reach (Replay.toolkit R catalog) i w = ⟨.error failure, w', js⟩) :
    GoesOn d R w js w' := by
  have hreached := reached (Replay.toolkit R catalog) i w
  rw [h] at hreached
  cases hreached with
  | refused hslot hcreate => cases hcreate
  | missing => exact .refl w

lemma obeys_reach : (reach (Replay.toolkit R catalog) i).Obeys (replaying d R) w := by
  rw [obeys_replaying]
  rcases hr : reach (Replay.toolkit R catalog).toCrew i w with ⟨failure | ⟨panel, memory⟩, w', js⟩
  · exact goesOn_of_failed_reach hr
  · exact (goesOn_of_reach hr).1

lemma obeys_refresh : refresh.Obeys (replaying d R) w := by
  rw [Obeys, refresh_apply]
  cases hrefresh : w.env.refresh with
  | error e =>
    refine ⟨.refl w, fun {trail} hw => ?_⟩
    rw [entered_refreshed, List.append_nil]
    exact hw
  | ok env =>
    refine ⟨⟨rfl, rfl⟩, fun {trail} hw => ?_⟩
    rw [entered_refreshed, List.append_nil]
    exact hw.withEnv w.navigation (Environment.respects_of_refresh hrefresh)

/-- A view that keeps its memory and respects what is blocked. -/
def Sparing {α : Type} (act : Stage → Attempt Remark (Scene Texts) α) : Prop :=
  ∀ stage scene, (act stage scene).state.memory = scene.memory ∧
    scene.env.store.Respects (act stage scene).state.env.store

lemma obeys_turn {α : Type} {occasion : Occasion} {act : Stage → Attempt Remark (Scene Texts) α}
    (hact : Sparing act) (hoccasion : occasion ≠ .entering) :
    (turn (Replay.toolkit R catalog) occasion i act).Obeys (replaying d R) w := by
  rw [obeys_replaying]
  rcases hr : reach (Replay.toolkit R catalog).toCrew i w with ⟨failure | ⟨panel, memory⟩, v, js⟩
  · rw [turn_of_failed_reach hr]
    exact goesOn_of_failed_reach hr
  · obtain ⟨hv, -, hslot, -⟩ := goesOn_of_reach (d := d) hr
    rw [turn_of_reach hr]
    refine hv.trans ⟨⟨panels_setView .., rfl⟩, fun {trail} hw => ?_⟩
    obtain ⟨hmemory, hstore⟩ := hact ⟨panel, catalog⟩ ⟨memory, v.env, v.navigation⟩
    have hanswers : memory = Replay.answersOf R panel.id := hw.memory hslot
    rw [entered_turned hoccasion, List.append_nil]
    dsimp only
    rw [show (Replay.toolkit R catalog).catalog = catalog from rfl, hmemory]
    subst hanswers
    exact (hw.setView hslot).withEnv _ hstore

/-! ### The views of a replay -/

lemma sparing_refresh_bind {α : Type} {act : Stage → Attempt Remark (Scene Texts) α}
    (hact : ∀ stage scene, (act stage scene).state = scene) :
    Sparing fun stage => (do Scene.refresh; act stage) := by
  intro stage scene
  show (((do Scene.refresh; act stage) : Attempt _ _ _) scene).state.memory = _ ∧
    scene.env.store.Respects (((do Scene.refresh; act stage) : Attempt _ _ _) scene).state.env.store
  cases hrefresh : scene.env.refresh with
  | error e =>
    rw [bind_of_error (Course.refresh_scene_of_error hrefresh)]
    exact ⟨rfl, .refl _⟩
  | ok env =>
    rw [bind_of_ok (Course.refresh_scene_of_ok hrefresh)]
    dsimp only
    rw [hact]
    exact ⟨rfl, Environment.respects_of_refresh hrefresh⟩

lemma sparing_validate : Sparing Replay.hooks.validate := by
  rw [funext Course.validate_replay]
  exact sparing_refresh_bind fun stage scene => stage.state_runAll stage.panel.validators scene

lemma sparing_commit : Sparing Replay.hooks.commit := by
  rw [funext Course.commit_replay]
  exact sparing_refresh_bind fun _ _ => rfl

/-- Bringing up a view enters its panel, which gives its data. -/
lemma obeys_enter : (turn (Replay.toolkit R catalog) .entering i
    fun stage => ofStep (Replay.hooks.activate stage)).Obeys (replaying d R) w := by
  rw [obeys_replaying]
  rcases hr : reach (Replay.toolkit R catalog).toCrew i w with ⟨failure | ⟨panel, memory⟩, v, js⟩
  · rw [turn_of_failed_reach hr]
    exact goesOn_of_failed_reach hr
  · obtain ⟨hv, -, hslot, -⟩ := goesOn_of_reach (d := d) hr
    rw [turn_of_reach hr]
    refine hv.trans ⟨⟨panels_setView .., rfl⟩, fun {trail} hw => ?_⟩
    have hanswers : memory = Replay.answersOf R panel.id := hw.memory hslot
    subst hanswers
    have hview := hw.setView hslot
    have hpanel : (v.setView i (Replay.answersOf R panel.id)).panel? i = some panel := by
      rw [panel?, panels_setView, ← panel?, panel?_eq, hslot]
      rfl
    rw [entered_entering, entered_map_remarked]
    exact hview.give v.navigation hpanel

/-- **A replay goes on through all small steps.** -/
lemma governs_replaying (d : Definition) (R : List PanelRecord) (catalog : Catalog) :
    Governs (Replay.toolkit R catalog) (replaying d R) where
  samePlace h := h.samePlace
  samePlace_of_err h := h.samePlace
  reach _ := obeys_reach
  inquire visibleOnly panel memory := Toolkit.obeys_inquire _ visibleOnly panel memory _
  refresh := obeys_refresh
  validate _ := obeys_turn sparing_validate (by decide)
  commit _ := obeys_turn sparing_commit (by decide)
  save _ := obeys_turn (fun _ _ => ⟨rfl, .refl _⟩) (by decide)
  leave _ := obeys_turn (fun _ _ => ⟨rfl, .refl _⟩) (by decide)
  enter _ := obeys_enter
  record _ := obeys_turn (fun _ _ => by
    rw [recordOf_of_recorded_eq_nil rfl]
    exact ⟨rfl, .refl _⟩) (by decide)

/-! ### Calls and sessions -/

lemma Replays.perform (catalog : Catalog) (h : Replays d R trail w) (hw : w.InBounds) {c : Call}
    (hc : c.SparesStore) :
    Replays d R (trail ++ entered (c.perform (Replay.toolkit R catalog) w).journal)
      (c.perform (Replay.toolkit R catalog) w).state := by
  have hgoverns := governs_replaying d R catalog
  have hobeys {α : Type} {m : Attempt Event (Wizard Texts) α} (hm : m.Obeys (replaying d R) w) :
      Replays d R (trail ++ entered (m w).journal) (m w).state :=
    (obeys_replaying.mp hm).replays h
  cases c with
  | move m =>
    have hperform : (Call.move m).perform (Replay.toolkit R catalog) w = _ :=
      bind_pure_apply (m.perform (Replay.toolkit R catalog).toCrew) Answer.flag w
    have hmoved := hgoverns.perform hw m
    rw [hperform]
    dsimp only
    generalize m.perform (Replay.toolkit R catalog).toCrew w = report at hmoved
    cases hmoved with
    | stayed hok => exact hok.replays h
    | failed herr => exact herr.replays h
    | @arrived v js new _ hnew hlast hok =>
      have hmem : new ∈ trail ++ entered js :=
        List.mem_append_right trail (List.mem_of_getLast? hlast)
      exact (hok.replays h).arrive w.index? (hok.samePlace.size ▸ hnew) hmem
  | ask q => exact hobeys (.map _ (hgoverns.ask hw q))
  | act i validate =>
    cases validate with
    | true => exact hobeys (.map _ (obeys_turn sparing_validate (by decide)))
    | false => exact hobeys (.map _ (obeys_turn sparing_commit (by decide)))
  | record => exact hobeys (.map _ hgoverns.installationRecord)
  | setNext open' => exact (List.append_nil trail).symm ▸ ⟨h.ids, h.memory, h.visited, h.keeps⟩
  | setPrevious open' => exact (List.append_nil trail).symm ▸ ⟨h.ids, h.memory, h.visited, h.keeps⟩
  | adjust f =>
    have hstore : (f w.env).store = w.env.store := hc w.env
    have hrespects : w.env.store.Respects (f w.env).store := hstore ▸ .refl _
    exact (List.append_nil trail).symm ▸ h.withEnv w.navigation hrespects

/-- **A wizard goes on replaying through a session.** -/
lemma Replays.session (catalog : Catalog) {calls : List Call} (h : Replays d R trail w)
    (hw : w.InBounds) (hcalls : ∀ c ∈ calls, c.SparesStore) :
    Replays d R
      (trail ++ activated (SetupWizard.session (Replay.toolkit R catalog) calls w).journal)
      (SetupWizard.session (Replay.toolkit R catalog) calls w).state := by
  induction calls generalizing w trail with
  | nil =>
    rw [session_nil, activated, List.flatMap_nil, List.append_nil]
    exact h
  | cons c cs ih =>
    have hstep := h.perform catalog hw (hcalls c List.mem_cons_self)
    have hbounds := (placed (Replay.toolkit R catalog) hw c).inBounds hw
    rw [state_session_cons, journal_session_cons, activated, List.flatMap_cons,
      ← List.append_assoc]
    exact ih hstep hbounds fun c' hc' => hcalls c' (List.mem_cons_of_mem c hc')

/-! ### The record -/

/-- A view that is asked for its data has the current values of its variables, and nothing
changes. -/
lemma exists_of_recording (catalog : Catalog) (h : Replays d R trail w) (hi : i < w.size) :
    ∃ p v js, d.panels[i]? = some p ∧
      turn (Replay.toolkit R catalog) .recording i (recordOf (Replay.toolkit R catalog)) w =
        ⟨.ok ⟨p.id, Replay.currentValues (Replay.answersOf R p.id) w.env.store⟩, v, js⟩ ∧
      Replays d R trail v ∧ v.size = w.size ∧ v.env = w.env := by
  rcases hr : reach (Replay.toolkit R catalog).toCrew i w with ⟨failure | ⟨panel, memory⟩, v, js⟩
  · have hreached := reached (Replay.toolkit R catalog) i w
    rw [hr] at hreached
    cases hreached with
    | refused hslot hcreate => cases hcreate
    | missing hle => exact absurd hi (Nat.not_lt.mpr hle)
  · obtain ⟨hv, hentered, hslot, henv⟩ := goesOn_of_reach (d := d) hr
    have hreplays : Replays d R trail v := by
      have hreplays := hv.replays h
      rwa [hentered, List.append_nil] at hreplays
    obtain rfl : memory = Replay.answersOf R panel.id := hreplays.memory hslot
    obtain ⟨p, hp, hid⟩ := hreplays.exists_panel (by rw [panel?_eq, hslot]; rfl)
    refine ⟨p, v.setView i (Replay.answersOf R panel.id), js ++ [.turned .recording i v.env], hp,
      ?_, hreplays.setView hslot, ?_, henv⟩
    · rw [turn_of_reach hr, recordOf_of_recorded_eq_nil rfl, hid, ← henv]
      rfl
    · rw [(samePlace_setView i _ v).size, hv.samePlace.size]

/-- The data of the given panels, one after the other. -/
lemma result_recordAt (catalog : Catalog) (h : Replays d R trail w) {is : List Nat}
    (his : ∀ i ∈ is, i < w.size) :
    ∃ written, (recordAt (Replay.toolkit R catalog) is w).result = .ok written ∧
      List.Forall₂ (fun i r => ∃ p, d.panels[i]? = some p ∧
        r = ⟨p.id, Replay.currentValues (Replay.answersOf R p.id) w.env.store⟩) is written := by
  induction is generalizing w with
  | nil => exact ⟨[], rfl, .nil⟩
  | cons i is ih =>
    obtain ⟨p, v, js, hp, hturn, hv, hsize, henv⟩ :=
      exists_of_recording catalog h (his i List.mem_cons_self)
    obtain ⟨written, hresult, hwritten⟩ :=
      ih hv fun j hj => hsize ▸ his j (List.mem_cons_of_mem i hj)
    rw [henv] at hwritten
    refine ⟨_ :: written, ?_, .cons ⟨p, hp, rfl⟩ hwritten⟩
    rw [recordAt, bind_of_ok hturn, bind_pure_apply, hresult]
    rfl

/-! ### The answers -/

/-- The latest value for a variable is what the entered panels have given to it. -/
lemma latest_of_given {panels : List Panel} {n value : String}
    (h : ({ panels } : Definition).given? (Replay.answersOf R) trail n = some value) :
    Replay.Latest R panels trail n value := by
  obtain ⟨before, i, after, hsplit, hi, hbefore⟩ := List.findSome?_eq_some_iff.mp h
  obtain ⟨p, hp, hvalue⟩ := Course.exists_panel_of_dataAt hi
  refine ⟨after.reverse, i, before.reverse, p, ?_, hp, hvalue, fun j hj q hq => ?_⟩
  · have hreverse := congrArg List.reverse hsplit
    simpa using hreverse
  · have hnone := hbefore j (List.mem_reverse.mp hj)
    rwa [Course.dataAt_of_panel hq] at hnone

/-- The variables of the panels that have been entered have their latest values and are blocked. -/
lemma Replays.exists_latest {panels : List Panel} (h : Replays { panels } R trail w)
    (hi : i ∈ trail) {p : Panel} (hp : panels[i]? = some p) {n : String}
    (hn : n ∈ Replay.answersOf R p.id) :
    ∃ value, Replay.Latest R panels trail n value ∧ w.env.store.isBlocked n = true ∧
      w.env.store.get? n = some value := by
  obtain ⟨a, ha⟩ : ∃ a, (Replay.answersOf R p.id)[n]? = some a :=
    Option.isSome_iff_exists.mp (Std.ExtTreeMap.mem_iff_isSome_getElem?.mp hn)
  have hdata : (({ panels } : Definition).dataAt (Replay.answersOf R) i)[n]? = some a := by
    rw [Course.dataAt_of_panel hp]
    exact ha
  obtain ⟨value, hgiven, -⟩ := Course.exists_given? hi hdata
  obtain ⟨hblocked, hvalue⟩ := h.keeps n value hgiven
  exact ⟨value, latest_of_given hgiven, hblocked, hvalue⟩

/-- The data of a panel that has been entered, as it is recorded. -/
lemma Replays.latest_of_recorded {panels : List Panel} (h : Replays { panels } R trail w)
    (hi : i ∈ trail) {p : Panel} (hp : panels[i]? = some p) (n : String) :
    let data := Replay.currentValues (Replay.answersOf R p.id) w.env.store
    (n ∈ data ↔ n ∈ Replay.answersOf R p.id) ∧
      ∀ value, data[n]? = some value →
        Replay.Latest R panels trail n value ∧ w.env.store.get? n = some value := by
  intro data
  have hdata : data[n]? = (Replay.answersOf R p.id)[n]?.bind fun _ => w.env.store.get? n :=
    Replay.getElem?_currentValues ..
  have hmem {value : String} (hvalue : data[n]? = some value) : n ∈ Replay.answersOf R p.id := by
    rw [hdata] at hvalue
    obtain ⟨a, ha, -⟩ := Option.bind_eq_some_iff.mp hvalue
    exact Std.ExtTreeMap.mem_iff_isSome_getElem?.mpr (ha ▸ rfl)
  have hlatest (hn : n ∈ Replay.answersOf R p.id) : ∃ value, data[n]? = some value ∧
      Replay.Latest R panels trail n value ∧ w.env.store.get? n = some value := by
    obtain ⟨value, hlatest, -, hvalue⟩ := h.exists_latest hi hp hn
    obtain ⟨a, ha⟩ := Option.isSome_iff_exists.mp (Std.ExtTreeMap.mem_iff_isSome_getElem?.mp hn)
    exact ⟨value, by rw [hdata, ha]; exact hvalue, hlatest, hvalue⟩
  refine ⟨⟨fun hn => ?_, fun hn => ?_⟩, fun value hvalue => ?_⟩
  · obtain ⟨a, ha⟩ := Option.isSome_iff_exists.mp (Std.ExtTreeMap.mem_iff_isSome_getElem?.mp hn)
    exact hmem ha
  · obtain ⟨value, hvalue, -⟩ := hlatest hn
    exact Std.ExtTreeMap.mem_iff_isSome_getElem?.mpr (hvalue ▸ rfl)
  · obtain ⟨value', hvalue', hboth⟩ := hlatest (hmem hvalue)
    obtain rfl := Option.some.inj (hvalue'.symm.trans hvalue)
    exact hboth

/-- **Recorded answers survive.**  Let a wizard none of whose panels is visited replay a record,
and let it be called on in any order, as long as nobody else writes to its store.  Then a variable
in the data of a panel that has been entered is blocked and has the value that the panel entered
last among those with data for it gives it.  And the record can be made: it has an entry for each
visited panel, with exactly the variables in the data of the panel, and these values.  The data of
a panel is what the record has for it, the later entries winning. -/
theorem answers_of_session (panels : List Panel) (hpanels : ∀ p ∈ panels, p.visited = false)
    (env : Environment) (R : List PanelRecord) (catalog : Catalog) (calls : List Call)
    (hcalls : ∀ c ∈ calls, c.SparesStore) :
    let T : Crew Texts := Replay.toolkit R catalog
    let after := SetupWizard.session T calls (ofPanels panels env)
    let w := after.state
    let trail := activated after.journal
    (∀ i ∈ trail, ∀ p, panels[i]? = some p → ∀ n ∈ Replay.answersOf R p.id, ∃ value,
      Replay.Latest R panels trail n value ∧ w.env.store.isBlocked n = true ∧
        w.env.store.get? n = some value) ∧
    (∃ written, (installationRecord T w).result = .ok written ∧
      List.Forall₂ (fun i r => ∃ p, panels[i]? = some p ∧ r.panel = p.id ∧
        (∀ n, n ∈ r.data ↔ n ∈ Replay.answersOf R p.id) ∧
        ∀ n value, r.data[n]? = some value →
          Replay.Latest R panels trail n value ∧ w.env.store.get? n = some value)
        w.visitedPositions written) ∧
    ∀ id n : String, (Replay.answersOf R id)[n]? =
      R.reverse.findSome? fun r => if r.panel = id then r.data[n]? else none := by
  intro T after w trail
  have hbounds : (ofPanels panels env : Wizard Texts).InBounds := inBounds_ofPanels panels env
  have h : Replays { panels } R trail w :=
    (Replays.ofPanels hpanels env).session catalog hbounds hcalls
  refine ⟨fun i hi p hp n hn => h.exists_latest hi hp hn, ?_, Replay.getElem?_answersOf R⟩
  obtain ⟨written, hresult, hwritten⟩ :=
    result_recordAt catalog h fun i hi => lt_size_of_mem_visitedPositions hi
  have hentered := (List.forall₂_and_left w.visitedPositions written).mpr ⟨h.visited, hwritten⟩
  refine ⟨written, hresult, hentered.imp fun i r hr => ?_⟩
  obtain ⟨hi, p, hp, rfl⟩ := hr
  exact ⟨p, hp, rfl, fun n => (h.latest_of_recorded hi hp n).1,
    fun n => (h.latest_of_recorded hi hp n).2⟩

/-- Two panels with data for one variable, gone through and back again, and a derivation that would
set the variable to something else: it has the value from the first panel again. -/
theorem answers_of_return :
    let panels : List Panel :=
      [{ id := "a", className := "Input" }, { id := "b", className := "Input" }]
    let env : Environment := { derivations := [{ name := "X", expression := "3" }] }
    let R : List PanelRecord := [⟨"a", .ofList [("X", "1")]⟩, ⟨"b", .ofList [("X", "2")]⟩]
    let calls : List Call := [.move (.next true), .move (.next true), .move .previous]
    let after := SetupWizard.session (Replay.toolkit R ∅).toCrew calls (ofPanels panels env)
    (∀ p ∈ panels, p.visited = false) ∧ (∀ c ∈ calls, c.SparesStore) ∧
      activated after.journal = [0, 1, 0] ∧ Replay.Latest R panels [0, 1, 0] "X" "1" ∧
      after.state.env.store.isBlocked "X" = true := by
  intro panels env R calls after
  have hpanels : ∀ p ∈ panels, p.visited = false := by decide
  have hcalls : ∀ c ∈ calls, c.SparesStore := by simp [calls, Call.SparesStore]
  have htrail : activated after.journal = [0, 1, 0] := by decide +kernel
  have hfirst : after.state.env.store.get? "X" = some "1" := by decide +kernel
  have hdata : "X" ∈ Replay.answersOf R "a" := by decide +kernel
  have hentered : 0 ∈ activated after.journal := by
    rw [htrail]
    exact List.mem_cons_self
  obtain ⟨hanswers, -⟩ := answers_of_session panels hpanels env R ∅ calls hcalls
  obtain ⟨value, hlatest, hblocked, hvalue⟩ := hanswers 0 hentered _ rfl "X" hdata
  rw [hfirst] at hvalue
  obtain rfl : "1" = value := Option.some.inj hvalue
  rw [htrail] at hlatest
  exact ⟨hpanels, hcalls, htrail, hlatest, hblocked⟩

end Wizard

end SetupWizard
