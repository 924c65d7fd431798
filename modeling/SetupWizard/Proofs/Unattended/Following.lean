/-
# Wizards that follow a course

The wizard of an unattended run *follows* a course when it stands where the course stands and
has the same environment.  The wizard and the course *agree* on a step when the step has the same
result for both, keeps the wizard following, and has the same validations and entered panels in
its journal.

Steps that agree may be composed (`Agrees.bind`), and what only the wizard does may be left out
(`Agrees.bind_quiet`).  This file shows that the two agree where a wizard looks for a panel and
where it turns to a view.
-/
import SetupWizard.Proofs.Unattended.Forward
import SetupWizard.Proofs.Validation
import SetupWizard.Proofs.Wizard.Governed

namespace SetupWizard

open Attempt

/-! ### Landmarks -/

/-- Validations and panels that are entered. -/
def Event.isLandmark : Event → Bool
  | .turned .validating _ _ => true
  | .turned .entering _ _ => true
  | _ => false

/-- The validations and the panels that are entered, in order. -/
def landmarks (js : List Event) : List Event := js.filter Event.isLandmark

@[simp] lemma landmarks_nil : landmarks [] = [] := rfl

@[simp] lemma landmarks_append (js ks : List Event) :
    landmarks (js ++ ks) = landmarks js ++ landmarks ks := List.filter_append ..

@[simp] lemma landmarks_map_remarked (remarks : List Remark) :
    landmarks (remarks.map Event.remarked) = [] := by
  refine List.filter_eq_nil_iff.mpr fun event hmem => ?_
  obtain ⟨remark, -, rfl⟩ := List.mem_map.mp hmem
  exact Bool.false_ne_true

lemma landmarks_cons_remarked (event : Event) (remarks : List Remark) :
    landmarks (event :: remarks.map Event.remarked) = landmarks [event] := by
  have h := landmarks_append [event] (remarks.map Event.remarked)
  rw [landmarks_map_remarked, List.append_nil] at h
  exact h

/-- The landmarks of a journal are entries of it. -/
lemma mem_landmarks {event : Event} {js : List Event} :
    event ∈ landmarks js ↔ event ∈ js ∧ event.isLandmark = true := List.mem_filter

namespace Course

variable {d : Definition} {R : List PanelRecord} {w w' : Wizard Texts} {x x' : Course}

/-- A panel of the definition with its mark in the course. -/
def mark (x : Course) (i : Nat) (p : Panel) : Panel :=
  { p with visited := p.visited || x.trail.contains i }

/-- The wizard of an unattended run stands where the course stands. -/
structure Follows (d : Definition) (R : List PanelRecord) (w : Wizard Texts) (x : Course) :
    Prop where
  panel? (i : Nat) : w.panel? i = (d.panels[i]?).map (x.mark i)
  size : w.size = d.panels.length
  index : w.index? = x.at?
  env : w.env = x.env
  navigation : w.navigation = {}
  memory {i : Nat} {panel : Panel} {memory : Texts} :
    w.slots[i]? = some ⟨panel, some memory⟩ → memory = Replay.answersOf R panel.id
  inBounds (i : Nat) : x.at? = some i → i < d.panels.length

/-- The wizard does what the course does: the results are the same, the states still
correspond, and so do the landmarks. -/
structure Agrees {α : Type} (d : Definition) (R : List PanelRecord)
    (r : Report Event (Wizard Texts) (Except Failure α))
    (s : Report Event Course (Except Failure α)) : Prop where
  result : r.result = s.result
  follows : Follows d R r.state s.state
  journal : landmarks r.journal = s.journal

namespace Agrees

variable {α β : Type}

lemma pure (a : α) (h : Follows d R w x) :
    Agrees d R ((Pure.pure a : Attempt Event (Wizard Texts) α) w)
      ((Pure.pure a : Attempt Event Course α) x) := ⟨rfl, h, rfl⟩

/-- **Composed attempts agree when their parts do.** -/
lemma bind {m : Attempt Event (Wizard Texts) α} {c : Attempt Event Course α}
    {f : α → Attempt Event (Wizard Texts) β} {g : α → Attempt Event Course β}
    (hm : Agrees d R (m w) (c x))
    (hf : ∀ a w' x', Follows d R w' x' → (m w).result = .ok a → (m w).state = w' →
      (c x).state = x' → Agrees d R (f a w') (g a x')) :
    Agrees d R ((m >>= f) w) ((c >>= g) x) := by
  rcases hmw : m w with ⟨failure | a, w', js⟩ <;> rcases hcx : c x with ⟨failure' | a', x', ks⟩ <;>
    obtain ⟨hresult, hfollows, hjournal⟩ := hmw ▸ hcx ▸ hm
  · rw [bind_of_error hmw, bind_of_error hcx]
    cases hresult
    exact ⟨rfl, hfollows, hjournal⟩
  · cases hresult
  · cases hresult
  · cases hresult
    rw [bind_of_ok hmw, bind_of_ok hcx]
    have hrest := hf a w' x' hfollows (by rw [hmw]) (by rw [hmw]) (by rw [hcx])
    exact ⟨hrest.result, hrest.follows, by
      rw [landmarks_append, hrest.journal, show landmarks js = ks from hjournal]⟩

/-- What only the wizard does may come before what both do. -/
lemma bind_quiet {m : Attempt Event (Wizard Texts) α} {f : α → Attempt Event (Wizard Texts) β}
    {a : α} {s : Report Event Course (Except Failure β)} (hm : Agrees d R (m w) ⟨.ok a, x, []⟩)
    (hf : ∀ w', Follows d R w' x → Agrees d R (f a w') s) : Agrees d R ((m >>= f) w) s := by
  rcases hmw : m w with ⟨failure | a', w', js⟩ <;> obtain ⟨hresult, hfollows, hjournal⟩ := hmw ▸ hm
  · cases hresult
  · cases hresult
    rw [bind_of_ok hmw]
    have hrest := hf w' hfollows
    exact ⟨hrest.result, hrest.follows, by
      rw [landmarks_append, show landmarks js = [] from hjournal, List.nil_append, hrest.journal]⟩

end Agrees

/-! ### Turning to a view -/

lemma Follows.getElem?_slots (h : Follows d R w x) {i : Nat} {p : Panel}
    (hp : d.panels[i]? = some p) : ∃ view?, w.slots[i]? = some ⟨x.mark i p, view?⟩ := by
  have hpanel := h.panel? i
  rw [Wizard.panel?_eq, hp, Option.map_some, Option.map_eq_some_iff] at hpanel
  obtain ⟨⟨panel, view?⟩, hslot, rfl⟩ := hpanel
  exact ⟨view?, hslot⟩

/-- A wizard that is given the memory of a view still follows the course. -/
lemma Follows.setView (h : Follows d R w x) {i : Nat} {p : Panel} (hp : d.panels[i]? = some p) :
    Follows d R (w.setView i (Replay.answersOf R p.id)) x := by
  obtain ⟨view?, hslot⟩ := h.getElem?_slots hp
  have hplace : Wizard.SamePlace w (w.setView i (Replay.answersOf R p.id)) :=
    ⟨Wizard.panels_setView .., rfl⟩
  refine ⟨fun j => (hplace.panel? j).trans (h.panel? j), hplace.size.trans h.size, h.index, h.env,
    h.navigation, fun {j panel memory} hmemory => ?_, h.inBounds⟩
  rw [Wizard.setView, List.getElem?_modify] at hmemory
  by_cases hij : i = j
  · subst hij
    rw [hslot] at hmemory
    simp only [if_true] at hmemory
    cases hmemory
    rfl
  · have hother : w.slots[j]? = some ⟨panel, some memory⟩ := by simpa [hij] using hmemory
    exact h.memory hother

lemma Follows.withEnv (h : Follows d R w x) (env : Environment) :
    Follows d R { w with env := env, navigation := {} } { x with env := env } :=
  ⟨h.panel?, h.size, h.index, rfl, rfl, h.memory, h.inBounds⟩

/-- A view that is reached has the answers for its panel. -/
lemma follows_reach (h : Follows d R w x) {i : Nat} {p : Panel} (hp : d.panels[i]? = some p) :
    Agrees d R (Wizard.reach (Unattended.toolkit d R) i w)
      ⟨.ok (x.mark i p, Replay.answersOf R p.id), x, []⟩ := by
  obtain ⟨view?, hslot⟩ := h.getElem?_slots hp
  rw [Wizard.reach_apply]
  rw [hslot]
  cases view? with
  | some memory =>
    have hmemory := h.memory hslot
    subst hmemory
    exact ⟨rfl, h, rfl⟩
  | none =>
    have hview : Follows d R (w.setView i (Replay.answersOf R p.id)) x := h.setView hp
    exact ⟨rfl, hview, rfl⟩

/-- The views of an unattended run act on the environment only. -/
def Modest {α : Type} (act : Stage → Attempt Remark (Scene Texts) α) : Prop :=
  ∀ stage scene, (act stage scene).state.memory = scene.memory ∧
    (act stage scene).state.navigation = scene.navigation

lemma follows_turn {α : Type} {act : Stage → Attempt Remark (Scene Texts) α} (hact : Modest act)
    (occasion : Occasion) (h : Follows d R w x) {i : Nat} {p : Panel}
    (hp : d.panels[i]? = some p) :
    let report := act ⟨x.mark i p, d.catalog⟩ ⟨Replay.answersOf R p.id, x.env, {}⟩
    Agrees d R (Wizard.turn (Unattended.toolkit d R) occasion i act w)
      ⟨report.result, { x with env := report.state.env },
        landmarks [.turned occasion i x.env]⟩ := by
  intro report
  refine (follows_reach h hp).bind_quiet fun w' h' => ?_
  have hscene : act ⟨x.mark i p, d.catalog⟩ ⟨Replay.answersOf R p.id, w'.env, w'.navigation⟩ =
      report := by rw [h'.env, h'.navigation]
  have hmemory : report.state.memory = Replay.answersOf R p.id := (hact _ _).1
  have hnavigation : report.state.navigation = {} := (hact _ _).2
  show Agrees d R
    (let r := act ⟨x.mark i p, d.catalog⟩ ⟨Replay.answersOf R p.id, w'.env, w'.navigation⟩
     ⟨r.result,
      { w'.setView i r.state.memory with env := r.state.env, navigation := r.state.navigation },
      .turned occasion i w'.env :: r.journal.map .remarked⟩) _
  rw [hscene, h'.env]
  refine ⟨rfl, ?_, landmarks_cons_remarked _ _⟩
  show Follows d R
    { w'.setView i report.state.memory with
      env := report.state.env, navigation := report.state.navigation } _
  rw [hmemory, hnavigation]
  exact (h'.setView hp).withEnv report.state.env

/-! ### Looking for the next panel -/

lemma Follows.exists_panel (h : Follows d R w x) {i : Nat} (hi : i < w.size) :
    ∃ p, d.panels[i]? = some p :=
  ⟨_, List.getElem?_eq_getElem (h.size ▸ hi)⟩

lemma Follows.ahead (h : Follows d R w x) : w.ahead = d.positionsAfter x.at? := by
  rw [Wizard.ahead, h.index, h.size]
  cases x.at? <;> rfl

lemma follows_canShow (h : Follows d R w x) {i : Nat} (hi : i < w.size) :
    Agrees d R (Wizard.canShow (Unattended.toolkit d R) i false w)
      ⟨.ok (d.offers x.env i), x, []⟩ := by
  obtain ⟨p, hp⟩ := h.exists_panel hi
  rw [Toolkit.canShow_eq]
  refine (follows_reach h hp).bind_quiet fun w' h' => ?_
  have hshows : (Unattended.toolkit d R).hooks.shows (Replay.answersOf R p.id) (x.mark i p)
      w'.env false = d.offers x.env i := by
    rw [h'.env, Definition.offers, hp, Option.any_some]
    exact Bool.and_true _
  rw [← hshows]
  exact ⟨rfl, h', rfl⟩

lemma follows_firstShown (h : Follows d R w x) {is : List Nat} (his : ∀ i ∈ is, i < w.size) :
    Agrees d R (Wizard.firstShown (Unattended.toolkit d R) false is w)
      ⟨.ok (is.find? (d.offers x.env)), x, []⟩ := by
  induction is generalizing w with
  | nil => exact ⟨rfl, h, rfl⟩
  | cons i is ih =>
    refine (follows_canShow h (his i List.mem_cons_self)).bind_quiet fun w' h' => ?_
    cases hoffers : d.offers x.env i with
    | true =>
      rw [List.find?_cons_of_pos hoffers]
      exact ⟨rfl, h', rfl⟩
    | false =>
      rw [List.find?_cons_of_neg (Bool.not_eq_true _ ▸ hoffers)]
      refine ih h' fun j hj => ?_
      rw [h'.size, ← h.size]
      exact his j (List.mem_cons_of_mem i hj)

lemma follows_findNext (h : Follows d R w x) :
    Agrees d R (Wizard.findNext (Unattended.toolkit d R) false w) ⟨.ok (x.target? d), x, []⟩ := by
  have hfound := follows_firstShown h fun i hi => Wizard.lt_size_of_mem_ahead hi
  rw [h.ahead] at hfound
  rw [Wizard.findNext, Attempt.get_bind, h.ahead]
  exact hfound

lemma follows_hasNext (h : Follows d R w x) :
    Agrees d R (Wizard.hasNext (Unattended.toolkit d R) w)
      ⟨.ok (x.target? d).isSome, x, []⟩ :=
  (follows_findNext h).bind_quiet fun _ h' => ⟨rfl, h', rfl⟩

lemma follows_isNextEnabled (h : Follows d R w x) :
    Agrees d R (Wizard.isNextEnabled (Unattended.toolkit d R) w)
      ⟨.ok (x.target? d).isSome, x, []⟩ := by
  rw [Wizard.isNextEnabled, Attempt.get_bind, h.navigation]
  exact follows_hasNext h

/-! ### The views of an unattended run -/

lemma modest_save :
    Modest fun stage => ofStep (Replay.hooks.save stage) := fun _ _ => ⟨rfl, rfl⟩

lemma modest_deactivate :
    Modest fun stage => ofStep (Replay.hooks.deactivate stage) := fun _ _ => ⟨rfl, rfl⟩

lemma modest_activate :
    Modest fun stage => ofStep (Replay.hooks.activate stage) := fun _ _ => ⟨rfl, rfl⟩

/-- The hooks that are not defined do nothing. -/
lemma ofStep_pure {S α : Type} (a : α) : (ofStep (pure a) : Attempt Remark S α) = pure a := rfl

/-- Validation in an unattended run: a refresh, and then the word of the validators. -/
lemma validate_replay (stage : Stage) :
    Replay.hooks.validate stage = (do Scene.refresh; stage.runValidators) := by
  have hpassed (passed : Bool) :
      (if passed then pure true else pure false : Attempt Remark (Scene Texts) Bool) =
        pure passed := by
    cases passed <;> rfl
  show (do
    Scene.refresh
    ofStep (pure ())
    let passed ← stage.runValidators
    if passed then (do ofStep (pure ()); pure true) else pure false) = _
  simp only [ofStep_pure, pure_bind, hpassed, bind_pure]

/-- Committing data in an unattended run: a refresh. -/
lemma commit_replay (stage : Stage) :
    Replay.hooks.commit stage = (do Scene.refresh; return true) := by
  show (do
    Scene.refresh
    ofStep (pure ())
    ofStep (pure ())
    ofStep (pure ())
    pure true) = _
  simp only [ofStep_pure, pure_bind]

lemma refresh_scene_of_ok {scene : Scene Texts} {env : Environment}
    (h : scene.env.refresh = .ok env) :
    Scene.refresh scene =
      ⟨.ok (), { scene with env := env }, scene.env.evaluations.map Remark.evaluated⟩ := by
  rw [Scene.refresh_apply, h]

lemma refresh_scene_of_error {scene : Scene Texts} {e : RefreshError}
    (h : scene.env.refresh = .error e) :
    Scene.refresh scene =
      ⟨.error (.refresh e), scene, scene.env.evaluations.map Remark.evaluated⟩ := by
  rw [Scene.refresh_apply, h]

lemma modest_refresh_bind {α : Type} {act : Stage → Attempt Remark (Scene Texts) α}
    (hact : Modest act) : Modest fun stage => (do Scene.refresh; act stage) := by
  intro stage scene
  show (((do Scene.refresh; act stage) : Attempt _ _ _) scene).state.memory = _ ∧
    (((do Scene.refresh; act stage) : Attempt _ _ _) scene).state.navigation = _
  cases hrefresh : scene.env.refresh with
  | error e =>
    rw [bind_of_error (refresh_scene_of_error hrefresh)]
    exact ⟨rfl, rfl⟩
  | ok env =>
    rw [bind_of_ok (refresh_scene_of_ok hrefresh)]
    exact hact stage { scene with env := env }

/-- A view that begins with a refresh and goes on without changing anything. -/
lemma follows_turn_refresh {α : Type} (act : Stage → Attempt Remark (Scene Texts) α)
    (f : Attempt Event Course α) (hact : ∀ stage scene, (act stage scene).state = scene)
    (occasion : Occasion) (h : Follows d R w x) {i : Nat} {p : Panel} (hp : d.panels[i]? = some p)
    (hf : ∀ env, f { x with env := env } =
      ⟨(act ⟨x.mark i p, d.catalog⟩ ⟨Replay.answersOf R p.id, env, {}⟩).result,
        { x with env := env }, []⟩) :
    Agrees d R
      (Wizard.turn (Unattended.toolkit d R) occasion i (fun stage => do Scene.refresh; act stage) w)
      (let report := (do refresh; f : Attempt Event Course α) x
       ⟨report.result, report.state, landmarks [.turned occasion i x.env] ++ report.journal⟩) := by
  have hmodest : Modest act := fun stage scene => by
    rw [hact]
    exact ⟨rfl, rfl⟩
  have hturn := follows_turn (modest_refresh_bind hmodest) occasion h hp
  dsimp only at hturn
  cases hrefresh : x.env.refresh with
  | error e =>
    have hscene : (do Scene.refresh; act ⟨x.mark i p, d.catalog⟩ : Attempt Remark (Scene Texts) α)
        ⟨Replay.answersOf R p.id, x.env, {}⟩ = ⟨.error (.refresh e), _, _⟩ :=
      bind_of_error (refresh_scene_of_error hrefresh) _
    have hcourse : (do refresh; f : Attempt Event Course α) x = ⟨.error (.refresh e), x, []⟩ :=
      bind_of_error (refresh_of_error hrefresh) _
    rw [hscene] at hturn
    rw [hcourse]
    simpa only [List.append_nil] using hturn
  | ok env =>
    have hscene : (do Scene.refresh; act ⟨x.mark i p, d.catalog⟩ : Attempt Remark (Scene Texts) α)
        ⟨Replay.answersOf R p.id, x.env, {}⟩ = _ := bind_of_ok (refresh_scene_of_ok hrefresh) _
    have hcourse : (do refresh; f : Attempt Event Course α) x = _ :=
      bind_of_ok (refresh_of_ok hrefresh) _
    rw [hscene, hact] at hturn
    rw [hcourse, hf]
    simpa only [List.append_nil] using hturn

lemma follows_validateAt (h : Follows d R w x) {i : Nat} (hi : i < w.size) :
    Agrees d R (Wizard.validateAt (Unattended.toolkit d R) i w)
      ((do
        Attempt.write (.turned .validating i x.env)
        refresh
        judge d i : Attempt Event Course Bool) x) := by
  obtain ⟨p, hp⟩ := h.exists_panel hi
  have hrun (stage : Stage) (scene : Scene Texts) :
      (stage.runValidators scene).state = scene := stage.state_runAll _ scene
  have hturn := follows_turn_refresh _ (judge d i) hrun .validating h hp fun env => by
    have hverdict : d.verdict env i =
        ((Stage.mk (x.mark i p) d.catalog).runValidators
          ⟨Replay.answersOf R p.id, env, {}⟩).result := by
      rw [Definition.verdict, hp]
      exact Requirement.result_runAll_catalog d.requirements (p := x.mark i p) (q := p) rfl
        ⟨Replay.answersOf R p.id, env, {}⟩ ⟨(), env, {}⟩ rfl p.validators
    rw [judge, hverdict]
  have hwrite : (Attempt.write (.turned .validating i x.env) : Attempt Event Course Unit) x =
      ⟨.ok (), x, [.turned .validating i x.env]⟩ := rfl
  rw [← funext validate_replay] at hturn
  rw [bind_of_ok hwrite]
  exact hturn

end Course

end SetupWizard
