/-
# How often views are called upon

To see how often a wizard calls the hooks of its views, the views are made to keep a tally
(`Crew.tallied`).  They remember more then and else do the same, so nobody but them notices
(`Crew.projects_tallied`).

Until a move crosses over, no tally changes (`precedes_uncounted`).  Then a move forward has the
view of the panel that is left save its data once, and every move has that view let go and the view
of the new panel come up (`tallyAt_cross`).  A view that objects to this counts that, too
(`objected_of_cross`).
-/
import SetupWizard.Proofs.Validation
import SetupWizard.Proofs.Wizard.Crossing
import SetupWizard.Proofs.Wizard.Projection

namespace SetupWizard

open Attempt

variable {σ α : Type}

/-- How often a view has been called upon. -/
structure Tally where
  /-- How often it has saved its data. -/
  saved : Nat := 0
  /-- How often it has been asked to let go. -/
  left : Nat := 0
  /-- How often it has been asked to come up. -/
  entered : Nat := 0
  /-- How often it has objected to the one or the other. -/
  objected : Nat := 0
deriving DecidableEq

namespace Tally

/-- The tally after the data has been saved. -/
def save (t : Tally) : Tally := { t with saved := t.saved + 1 }

/-- The tally after the view has been asked to let go. -/
def leave (agreed : Bool) (t : Tally) : Tally :=
  { t with left := t.left + 1, objected := t.objected + if agreed then 0 else 1 }

/-- The tally after the view has been asked to come up. -/
def enter (agreed : Bool) (t : Tally) : Tally :=
  { t with entered := t.entered + 1, objected := t.objected + if agreed then 0 else 1 }

/-- The tally that is due to the view of the panel at `p` after a move from one panel to another. -/
def cross (p : Nat) (old? : Option Nat) (new : Nat) (t : Tally) : Tally :=
  { t with
    saved := t.saved + if old? = some p ∧ p < new then 1 else 0
    left := t.left + if old? = some p then 1 else 0
    entered := t.entered + if new = p then 1 else 0 }

/-- The tally that is due to the view of the panel at `p` after a call that has moved the wizard
between two panels, or has not moved it. -/
def after (p : Nat) : Option (Option Nat × Nat) → Tally → Tally
  | some (old?, new), t => t.cross p old? new
  | none, t => t

/-- A move between two panels adds what its steps add. -/
lemma cross_some (p old new : Nat) (t : Tally) :
    t.cross p (some old) new =
      let saved := if some old = some p ∧ p < new then t.save else t
      let left := if p = old then saved.leave true else saved
      if p = new then left.enter true else left := by
  rcases eq_or_ne p old with rfl | hold
  · rcases Nat.lt_trichotomy p new with hlt | rfl | hgt
    · simp [cross, save, leave, hlt, Nat.ne_of_lt hlt, Nat.ne_of_gt hlt]
    · simp [cross, leave, enter]
    · simp [cross, leave, Nat.ne_of_lt hgt, Nat.ne_of_gt hgt, Nat.lt_asymm hgt]
  · rcases eq_or_ne p new with rfl | hnew
    · simp [cross, enter, hold, hold.symm]
    · simp [cross, hold, hold.symm, hnew, hnew.symm]

/-- What a list of moves adds up to. -/
lemma foldl_cross (p : Nat) (moves : List (Option Nat × Nat)) (t : Tally) :
    moves.foldl (fun t x => t.cross p x.1 x.2) t =
      { saved := t.saved + moves.countP fun x => x.1 = some p ∧ p < x.2
        left := t.left + moves.countP fun x => x.1 = some p
        entered := t.entered + moves.countP fun x => x.2 = p
        objected := t.objected } := by
  induction moves generalizing t with
  | nil => rfl
  | cons x xs ih =>
    rw [List.foldl_cons, ih]
    simp only [cross, List.countP_cons, decide_eq_true_eq]
    congr 1 <;> ac_rfl

end Tally

/-- The hook, with a tally that is kept beside it. -/
def Hook.counting (count : α → Tally → Tally) (act : Hook σ α) : Hook (σ × Tally) α :=
  fun stage scene =>
    let report := act stage (scene.mapMemory Prod.fst)
    ⟨report.result,
      { memory := (report.state.memory, count report.result scene.memory.2)
        env := report.state.env
        navigation := report.state.navigation },
      report.journal⟩

/-- The crew whose views keep a tally of how often they save, let go and come up. -/
def Crew.tallied (T : Crew σ) : Crew (σ × Tally) where
  create p := (T.create p).map fun memory => (memory, {})
  hooks :=
    { isVisible := fun memory => T.hooks.isVisible memory.1
      canShow := fun memory => T.hooks.canShow memory.1
      beforeValidation := Hook.counting (fun _ => id) T.hooks.beforeValidation
      afterValidation := Hook.counting (fun _ => id) T.hooks.afterValidation
      save := Hook.counting (fun _ => Tally.save) T.hooks.save
      activate := Hook.counting Tally.enter T.hooks.activate
      deactivate := Hook.counting Tally.leave T.hooks.deactivate
      recordData := fun stage scene => T.hooks.recordData stage (scene.mapMemory Prod.fst) }
  catalog := T.catalog
  asked memory := T.asked memory.1
  recorded stage scene := T.recorded stage (scene.mapMemory Prod.fst)

/-- A tally is kept beside everything else. -/
lemma Crew.projects_tallied {T : Crew σ} (h : T.hooks.validation? = none) :
    T.Projects Prod.fst T.tallied where
  create p := by
    show T.create p = ((T.create p).map fun memory => (memory, ({} : Tally))).map Prod.fst
    cases T.create p <;> rfl
  catalog := rfl
  isVisible _ _ := rfl
  canShow _ _ _ := rfl
  standard := h
  standard' := rfl
  beforeValidation _ _ := rfl
  afterValidation _ _ := rfl
  save _ _ := rfl
  activate _ _ := rfl
  deactivate _ _ := rfl
  recordData _ _ := rfl
  asked _ _ _ := rfl
  recorded _ _ := rfl

/-! ### Hooks -/

section Hooks

variable (T : Crew σ) (stage : Stage) (scene : Scene (σ × Tally))

lemma memory_refresh : (Scene.refresh scene).state.memory = scene.memory := by
  rw [Scene.refresh_apply]
  cases scene.env.refresh <;> rfl

/-- Views do not count that they are validated. -/
lemma tally_validate : (T.tallied.hooks.validate stage scene).state.memory.2 = scene.memory.2 := by
  suffices h : (T.tallied.hooks.standardValidation stage).Obeys
      (.keeping fun scene' => scene'.memory.2 = scene.memory.2) scene from h.keeps rfl
  refine .bind (obeys_keeping_iff.mpr ?_) fun _ scene₁ _ _ _ => ?_
  · rw [memory_refresh]
    exact id
  refine .bind (obeys_keeping_iff.mpr (id :)) fun _ scene₂ _ _ _ => ?_
  refine .bind (obeys_keeping_iff.mpr ?_) fun passed scene₃ _ _ _ => ?_
  · rw [Stage.runValidators, stage.state_runAll]
    exact id
  cases passed with
  | true => exact .map _ (obeys_keeping_iff.mpr (id :))
  | false => exact .pure false scene₃

variable {T stage scene}

/-- A commit that succeeds has saved the data once. -/
lemma tally_commit {scene' : Scene (σ × Tally)} {b : Bool} {remarks : List Remark}
    (h : T.tallied.hooks.commit stage scene = ⟨.ok b, scene', remarks⟩) :
    scene'.memory.2 = scene.memory.2.save := by
  obtain ⟨_, scene₁, _, _, hrefresh, h, -⟩ := exists_of_bind_ok h
  obtain ⟨_, scene₂, _, _, hbefore, h, -⟩ := exists_of_bind_ok h
  obtain ⟨_, scene₃, _, _, hafter, h, -⟩ := exists_of_bind_ok h
  obtain ⟨_, scene₄, _, _, hsave, h, -⟩ := exists_of_bind_ok h
  have hmemory : scene₁.memory = scene.memory := by
    simpa only [hrefresh] using memory_refresh scene
  rw [← hmemory]
  cases h
  cases hbefore
  cases hafter
  cases hsave
  rfl

end Hooks

namespace Wizard

variable {T : Crew σ} {w w' : Wizard (σ × Tally)} {i p new : Nat} {js : List Event}

/-- The tally of the view of the panel at `p`; it is empty as long as there is no view. -/
def tallyAt (w : Wizard (σ × Tally)) (p : Nat) : Tally :=
  ((w.slots[p]?.bind Slot.view?).map Prod.snd).getD {}

lemma tallyAt_setView (hi : i < w.size) (memory : σ × Tally) (p : Nat) :
    (w.setView i memory).tallyAt p = if p = i then memory.2 else w.tallyAt p := by
  unfold tallyAt
  rw [getElem?_slots_setView]
  by_cases h : p = i
  · subst h
    simp [List.getElem?_eq_getElem (show p < w.slots.length from hi)]
  · have h' : i ≠ p := fun hip => h hip.symm
    cases w.slots[p]? <;> simp [h, h']

@[simp] lemma tallyAt_arrive (old? : Option Nat) (new : Nat) (w : Wizard (σ × Tally)) (p : Nat) :
    (arrive old? new w).tallyAt p = w.tallyAt p := by
  unfold tallyAt
  rw [getElem?_slots_arrive]
  cases w.slots[p]? <;> rfl

@[simp] lemma tallyAt_ofPanels (panels : List Panel) (env : Environment) (p : Nat) :
    (ofPanels panels env : Wizard (σ × Tally)).tallyAt p = {} := by
  unfold tallyAt ofPanels
  dsimp only
  rw [List.getElem?_map]
  cases panels[p]? <;> rfl

lemma tallyAt_of_size_le (h : w.size ≤ p) : w.tallyAt p = {} := by
  rw [tallyAt, List.getElem?_eq_none h]
  rfl

/-- A view that is reached for the first time begins with an empty tally. -/
lemma tally_of_reach {panel : Panel} {memory : σ × Tally}
    (h : reach T.tallied i w = ⟨.ok (panel, memory), w', js⟩) :
    i < w'.size ∧ memory.2 = w.tallyAt i ∧ ∀ p, w'.tallyAt p = w.tallyAt p := by
  have hreached := reached T.tallied i w
  rw [h] at hreached
  cases hreached with
  | known hslot =>
    refine ⟨(List.getElem?_eq_some_iff.mp hslot).1, ?_, fun _ => rfl⟩
    rw [tallyAt, hslot]
    rfl
  | created hslot hcreate =>
    have hi : i < w.size := (List.getElem?_eq_some_iff.mp hslot).1
    have hnone : w.tallyAt i = {} := by
      rw [tallyAt, hslot]
      rfl
    have hempty : memory.2 = {} := by
      replace hcreate : (T.create panel).map (fun memory => (memory, ({} : Tally))) = .ok memory :=
        hcreate
      cases hT : T.create panel with
      | error failure =>
        rw [hT] at hcreate
        cases hcreate
      | ok m =>
        rw [hT] at hcreate
        cases hcreate
        rfl
    refine ⟨(samePlace_setView i memory w).size ▸ hi, hempty.trans hnone.symm, fun p => ?_⟩
    rw [tallyAt_setView hi, hempty]
    split
    · next h => rw [h, hnone]
    · rfl

/-- A turn that succeeds counts for the view that acts. -/
lemma tallyAt_turn {occasion : Occasion} {act : Stage → Attempt Remark (Scene (σ × Tally)) α}
    {a : α} {count : Tally → Tally} (h : turn T.tallied occasion i act w = ⟨.ok a, w', js⟩)
    (hact : ∀ stage scene scene' remarks, act stage scene = ⟨.ok a, scene', remarks⟩ →
      scene'.memory.2 = count scene.memory.2) (p : Nat) :
    w'.tallyAt p = if p = i then count (w.tallyAt p) else w.tallyAt p := by
  obtain ⟨panel, memory, u, scene, _, _, hreach, hturn, rfl, -⟩ := exists_of_turn h
  obtain ⟨hi, hmemory, hsame⟩ := tally_of_reach hreach
  have hset : (u.enact i scene).tallyAt p = if p = i then scene.memory.2 else u.tallyAt p :=
    tallyAt_setView hi scene.memory p
  rw [hset, hact _ _ _ _ hturn, hsame]
  dsimp only
  split
  · next h => rw [hmemory, h]
  · rfl

/-! ### Before a move crosses over -/

/-- The law that the place and all tallies stay the same. -/
def uncounted : Law Event (Wizard (σ × Tally)) where
  ok w _ w' := SamePlace w w' ∧ ∀ p, w'.tallyAt p = w.tallyAt p
  err _ w _ w' := SamePlace w w' ∧ ∀ p, w'.tallyAt p = w.tallyAt p
  ok_refl w := ⟨.refl w, fun _ => rfl⟩
  ok_trans h h' := ⟨h.1.trans h'.1, fun p => (h'.2 p).trans (h.2 p)⟩
  err_trans h h' := ⟨h.1.trans h'.1, fun p => (h'.2 p).trans (h.2 p)⟩

lemma uncounted_reach (T : Crew σ) (i : Nat) (w : Wizard (σ × Tally)) :
    (reach T.tallied i).Obeys uncounted w := by
  have hreached := reached T.tallied i w
  unfold Obeys
  rcases hr : reach T.tallied i w with ⟨failure | ⟨panel, memory⟩, u, js⟩
  · rw [hr] at hreached
    cases hreached with
    | refused => exact ⟨.refl w, fun _ => rfl⟩
    | missing => exact ⟨.refl w, fun _ => rfl⟩
  · refine ⟨?_, (tally_of_reach hr).2.2⟩
    rw [hr] at hreached
    cases hreached with
    | known => exact .refl w
    | created => exact samePlace_setView i memory w

lemma admitsLooking_uncounted (T : Crew σ) : AdmitsLooking T.tallied uncounted where
  reach := uncounted_reach T
  inquire visibleOnly panel memory w :=
    obeys_inquire visibleOnly panel memory w ⟨⟨rfl, rfl⟩, fun _ => rfl⟩

/-- A view that acts without counting. -/
lemma uncounted_turn {occasion : Occasion} {act : Stage → Attempt Remark (Scene (σ × Tally)) α}
    (hact : ∀ stage scene, (act stage scene).state.memory.2 = scene.memory.2) :
    (turn T.tallied occasion i act).Obeys uncounted w := by
  refine .bind (uncounted_reach T i w) fun (panel, memory) u js hreach hok => ?_
  obtain ⟨hi, hmemory, -⟩ := tally_of_reach hreach
  refine (obeys_iff_ok fun _ => rfl).mpr ⟨⟨panels_setView .., rfl⟩, fun p => ?_⟩
  refine (tallyAt_setView hi _ p).trans ?_
  rw [hact]
  split
  · next h => exact hmemory.trans ((hok.2 i).symm.trans (h ▸ rfl))
  · rfl

lemma precedes_uncounted (T : Crew σ) : Precedes T.tallied uncounted where
  samePlace h := h.1
  looking := admitsLooking_uncounted T
  validate _ _ := uncounted_turn (tally_validate T)

lemma uncounted_refresh : refresh.Obeys uncounted w := by
  rw [Obeys, refresh_apply]
  cases w.env.refresh with
  | ok env => exact ⟨⟨rfl, rfl⟩, fun _ => rfl⟩
  | error e => exact ⟨.refl w, fun _ => rfl⟩

lemma uncounted_recordAt (is : List Nat) : (recordAt T.tallied is).Obeys uncounted w := by
  induction is generalizing w with
  | nil => exact .pure [] w
  | cons i is ih => exact .bind (uncounted_turn fun _ _ => rfl) fun _ _ _ _ _ => .map _ ih

/-! ### Crossing over -/

/-- A panel that is left behind has its data saved once. -/
lemma tallyAt_depart {old : Nat} {validated : Bool}
    (h : depart T.tallied old validated w = ⟨.ok (), w', js⟩) (p : Nat) :
    w'.tallyAt p = if p = old then (w.tallyAt p).save else w.tallyAt p := by
  cases validated with
  | true =>
    have hturn : turn T.tallied .saving old
      (fun stage => ofStep (T.tallied.hooks.save stage)) w = _ := h
    refine tallyAt_turn hturn (fun _ scene scene' remarks hsave => ?_) p
    cases hsave
    rfl
  | false =>
    obtain ⟨b, v, _, _, hcommit, hrest, -⟩ := exists_of_bind_ok h
    cases hrest
    exact tallyAt_turn hcommit (fun _ _ _ _ => tally_commit) p

lemma tallyAt_contribute {old? : Option Nat} {validated : Bool}
    (h : contribute T.tallied old? new validated w = ⟨.ok (), w', js⟩) (p : Nat) :
    w'.tallyAt p = if old? = some p ∧ p < new then (w.tallyAt p).save else w.tallyAt p := by
  cases old? with
  | none =>
    cases h
    simp
  | some old =>
    rw [contribute_some] at h
    by_cases hold : old < new
    · rw [if_pos hold] at h
      rw [tallyAt_depart h]
      by_cases hp : p = old
      · subst hp
        simp [hold]
      · have hp' : old ≠ p := fun h => hp h.symm
        simp [hp, hp']
    · rw [if_neg hold] at h
      cases h
      rw [if_neg]
      rintro ⟨hp, hlt⟩
      exact hold (Option.some.inj hp ▸ hlt)

lemma tallyAt_refresh {w w' : Wizard (σ × Tally)} (h : refresh w = ⟨.ok (), w', js⟩) (p : Nat) :
    w'.tallyAt p = w.tallyAt p := (uncounted_refresh.ok_of_eq h).2 p

lemma tallyAt_leaving {old : Nat} {agreed : Bool}
    (h : turn T.tallied .leaving old (fun stage => ofStep (T.tallied.hooks.deactivate stage)) w =
      ⟨.ok agreed, w', js⟩) (p : Nat) :
    w'.tallyAt p = if p = old then (w.tallyAt p).leave agreed else w.tallyAt p := by
  refine tallyAt_turn h (fun _ scene scene' remarks hact => ?_) p
  cases hact
  rfl

lemma tallyAt_entering {agreed : Bool}
    (h : turn T.tallied .entering new (fun stage => ofStep (T.tallied.hooks.activate stage)) w =
      ⟨.ok agreed, w', js⟩) (p : Nat) :
    w'.tallyAt p = if p = new then (w.tallyAt p).enter agreed else w.tallyAt p := by
  refine tallyAt_turn h (fun _ scene scene' remarks hact => ?_) p
  cases hact
  rfl

lemma objected_leaving {old : Nat} {agreed : Bool}
    (h : turn T.tallied .leaving old (fun stage => ofStep (T.tallied.hooks.deactivate stage)) w =
      ⟨.ok agreed, w', js⟩) (p : Nat) :
    (w'.tallyAt p).objected =
      (w.tallyAt p).objected + if p = old ∧ agreed = false then 1 else 0 := by
  rw [tallyAt_leaving h]
  by_cases hp : p = old <;> cases agreed <;> simp [hp, Tally.leave]

lemma objected_entering {agreed : Bool}
    (h : turn T.tallied .entering new (fun stage => ofStep (T.tallied.hooks.activate stage)) w =
      ⟨.ok agreed, w', js⟩) (p : Nat) :
    (w'.tallyAt p).objected =
      (w.tallyAt p).objected + if p = new ∧ agreed = false then 1 else 0 := by
  rw [tallyAt_entering h]
  by_cases hp : p = new <;> cases agreed <;> simp [hp, Tally.enter]

/-- **What crossing over adds to the tallies** when both views agree. -/
lemma tallyAt_cross {old? : Option Nat} {validated : Bool}
    (h : cross T.tallied old? new validated w = ⟨.ok true, w', js⟩) (p : Nat) :
    w'.tallyAt p = (w.tallyAt p).cross p old? new := by
  obtain ⟨u, v, _, _, _, hcontribute, hrefresh, hconclude, -⟩ := exists_of_cross h
  obtain ⟨x, hexchange, rfl⟩ := exists_of_conclude_ok hconclude
  have hv : v.tallyAt p = if old? = some p ∧ p < new then (w.tallyAt p).save else w.tallyAt p := by
    rw [tallyAt_refresh hrefresh, tallyAt_contribute hcontribute]
  rw [if_pos rfl, tallyAt_arrive]
  cases old? with
  | none =>
    rw [exchange_none] at hexchange
    rw [tallyAt_entering hexchange, hv]
    by_cases hnew : p = new
    · simp [Tally.cross, Tally.enter, hnew]
    · have hnew' : new ≠ p := fun h => hnew h.symm
      simp [Tally.cross, hnew, hnew']
  | some old =>
    cases exchanged hexchange with
    | left hleave henter =>
      rw [tallyAt_entering henter, tallyAt_leaving hleave, hv, Tally.cross_some]

/-- A view that objects to the exchange leaves a trace. -/
lemma objected_of_exchange {old? : Option Nat}
    (h : exchange T.tallied old? new w = ⟨.ok false, w', js⟩) :
    ∃ q, ∀ p, (w'.tallyAt p).objected = (w.tallyAt p).objected + if p = q then 1 else 0 := by
  cases old? with
  | none =>
    rw [exchange_none] at h
    exact ⟨new, by simpa using objected_entering h⟩
  | some old =>
    cases exchanged h with
    | kept hleave => exact ⟨old, by simpa using objected_leaving hleave⟩
    | left hleave henter =>
      refine ⟨new, fun p => ?_⟩
      rw [objected_entering henter, objected_leaving hleave]
      simp

lemma objected_of_cross {old? : Option Nat} {validated : Bool}
    (h : cross T.tallied old? new validated w = ⟨.ok false, w', js⟩) :
    ∃ q, ∀ p, (w'.tallyAt p).objected = (w.tallyAt p).objected + if p = q then 1 else 0 := by
  obtain ⟨u, v, _, _, _, hcontribute, hrefresh, hconclude, -⟩ := exists_of_cross h
  obtain ⟨x, hexchange, rfl⟩ := exists_of_conclude_ok hconclude
  obtain ⟨q, hq⟩ := objected_of_exchange hexchange
  refine ⟨q, fun p => ?_⟩
  have hv : (v.tallyAt p).objected = (w.tallyAt p).objected := by
    rw [tallyAt_refresh hrefresh, tallyAt_contribute hcontribute]
    split <;> rfl
  rw [← hv]
  exact hq p

end Wizard

end SetupWizard
