/-
# The target of a move forward

A move forward looks for its target as soon as the data of the current panel has been validated.
Only then does the panel that is left contribute its data, the derived variables are brought up to
date, and the new view is brought up.  In all this no view but that of the current panel is let
act, so whether a panel ahead is shown remains a matter of the environment alone (`aside`).

Hence the panel that is entered is the next one for the environment in which the target was sought,
which is not always a refreshed one; and for the environment in which its view is brought up it is
the next one exactly if no panel up to it is shown differently there (`isNext_of_next`).
-/
import SetupWizard.Proofs.Session
import SetupWizard.Proofs.Wizard.Looking

namespace SetupWizard

open Attempt

variable {σ α : Type}

/-- Whether the panel of a slot is shown in an environment, unless its view cannot be made. -/
def Slot.shows (T : Toolkit σ) (slot : Slot σ) (env : Environment) : Except Failure Bool :=
  match slot.view? with
  | some memory => .ok (T.hooks.shows memory slot.panel env false)
  | none => (T.create slot.panel).map fun memory => T.hooks.shows memory slot.panel env false

namespace Wizard

variable {T : Toolkit σ} {w w' u v : Wizard σ} {i j new : Nat} {js : List Event}

/-- Whether the panel at a position is shown in an environment, if there is such a panel. -/
def shows (T : Toolkit σ) (w : Wizard σ) (env : Environment) (i : Nat) : Except Failure Bool :=
  match w.slots[i]? with
  | none => .error (.panelIndex i w.size)
  | some slot => slot.shows T env

/-- The panel at a position is the next one: it is shown, and no panel between the current one and
it is. -/
structure IsNext (T : Toolkit σ) (w : Wizard σ) (new : Nat) : Prop where
  ahead : new ∈ w.ahead
  shown : (canShow T new false w).result = .ok true
  passed : ∀ i ∈ w.ahead, i < new → (canShow T i false w).result = .ok false

/-! ### Looking at a panel -/

lemma shows_eq_of_slots (h : w'.slots = w.slots) (env : Environment) (i : Nat) :
    w'.shows T env i = w.shows T env i := by
  rw [shows, shows, size, size, h]

/-- The memory of one view has no part in whether another panel is shown. -/
lemma shows_setView_of_ne (h : i ≠ j) (memory : σ) (w : Wizard σ) (env : Environment) :
    (w.setView i memory).shows T env j = w.shows T env j := by
  rw [shows, shows, getElem?_slots_setView, (samePlace_setView i memory w).size]
  cases w.slots[j]? with
  | none => rfl
  | some slot => simp [h]

/-- A view that has been made shows its panel as it was to be expected before. -/
lemma shows_setView_of_create {panel : Panel} {memory : σ}
    (hslot : w.slots[i]? = some ⟨panel, none⟩) (hcreate : T.create panel = .ok memory)
    (env : Environment) (j : Nat) : (w.setView i memory).shows T env j = w.shows T env j := by
  by_cases h : i = j
  · subst h
    have hview : (w.setView i memory).slots[i]? = some ⟨panel, some memory⟩ := by
      rw [getElem?_slots_setView, hslot]
      simp
    simp [shows, hslot, hview, Slot.shows, hcreate, Except.map]
  · exact shows_setView_of_ne h memory w env

/-- Nothing has been done but to look at panels. -/
structure Looked (T : Toolkit σ) (w w' : Wizard σ) : Prop where
  env : w'.env = w.env
  samePlace : SamePlace w w'
  shows (env : Environment) (i : Nat) : w'.shows T env i = w.shows T env i

lemma Looked.refl (w : Wizard σ) : Looked T w w := ⟨rfl, .refl w, fun _ _ => rfl⟩

lemma looked_of_reach {panel : Panel} {memory : σ}
    (h : reach T i w = ⟨.ok (panel, memory), w', js⟩) : Looked T w w' ∧ entered js = [] := by
  have hreached := reached T i w
  rw [h] at hreached
  cases hreached with
  | known hslot => exact ⟨.refl w, rfl⟩
  | created hslot hcreate =>
    exact ⟨⟨rfl, samePlace_setView i _ w, shows_setView_of_create hslot hcreate⟩, rfl⟩

/-- The answer to whether a panel is shown. -/
lemma result_canShow (T : Toolkit σ) (i : Nat) (w : Wizard σ) :
    (canShow T i false w).result = w.shows T w.env i := by
  have hreached := reached T i w
  rw [T.canShow_eq]
  rcases hr : reach T.toCrew i w with ⟨failure | ⟨panel, memory⟩, v, js⟩
  · rw [hr] at hreached
    rw [bind_of_error hr]
    cases hreached with
    | refused hslot hcreate => simp [shows, hslot, Slot.shows, hcreate, Except.map]
    | missing hle => simp [shows, List.getElem?_eq_none hle]
  · have henv := (looked_of_reach hr).1.env
    rw [hr] at hreached
    rw [bind_of_ok hr]
    dsimp only
    rw [Attempt.get_bind, pure_apply, henv]
    cases hreached with
    | known hslot => simp [shows, hslot, Slot.shows]
    | created hslot hcreate => simp [shows, hslot, Slot.shows, hcreate, Except.map]

lemma looked_of_canShow {visibleOnly shown : Bool}
    (h : canShow T i visibleOnly w = ⟨.ok shown, w', js⟩) : Looked T w w' := by
  rw [T.canShow_eq] at h
  obtain ⟨⟨panel, memory⟩, v, ks, ls, hreach, hrest, -⟩ := exists_of_bind_ok h
  cases hrest
  exact (looked_of_reach hreach).1

/-- The next panel, in terms of what is shown. -/
lemma isNext_iff : IsNext T w new ↔ new ∈ w.ahead ∧ w.shows T w.env new = .ok true ∧
    ∀ i ∈ w.ahead, i < new → w.shows T w.env i = .ok false := by
  simp only [← result_canShow]
  constructor
  · rintro ⟨hahead, hshown, hpassed⟩
    exact ⟨hahead, hshown, hpassed⟩
  · rintro ⟨hahead, hshown, hpassed⟩
    exact ⟨hahead, hshown, hpassed⟩

/-- The panel that is found is shown, and those that were looked at before it are not. -/
lemma shows_of_firstShown {is : List Nat}
    (h : firstShown T false is w = ⟨.ok (some new), w', js⟩) :
    ∃ before after, is = before ++ new :: after ∧ w.shows T w.env new = .ok true ∧
      ∀ i ∈ before, w.shows T w.env i = .ok false := by
  induction is generalizing w js with
  | nil => cases h
  | cons k ks ih =>
    obtain ⟨shown, v, js₁, js₂, hk, hrest, -⟩ := exists_of_bind_ok h
    have hlooked := looked_of_canShow hk
    have hshows : w.shows T w.env k = .ok shown := by
      rw [← result_canShow, hk]
    cases shown with
    | true =>
      cases hrest
      exact ⟨[], ks, rfl, hshows, fun i hi => absurd hi List.not_mem_nil⟩
    | false =>
      -- The rest of the list is looked at by a wizard that shows the same panels.
      obtain ⟨before, after, rfl, hnew, hbefore⟩ := ih hrest
      rw [hlooked.env, hlooked.shows] at hnew
      refine ⟨k :: before, after, rfl, hnew, ?_⟩
      rintro i (_ | ⟨_, hi⟩)
      · exact hshows
      · have hi' := hbefore i hi
        rwa [hlooked.env, hlooked.shows] at hi'

lemma sorted_ahead (w : Wizard σ) : w.ahead.Pairwise (· < ·) := by
  unfold ahead
  split
  · exact List.pairwise_lt_range
  · exact List.pairwise_lt_range.sublist (List.drop_sublist _ _)

lemma isNext_of_findNext (h : findNext T false w = ⟨.ok (some new), w', js⟩) :
    IsNext T w new := by
  obtain ⟨before, after, hsplit, hnew, hbefore⟩ :
      ∃ before after, w.ahead = before ++ new :: after ∧ w.shows T w.env new = .ok true ∧
        ∀ i ∈ before, w.shows T w.env i = .ok false := shows_of_firstShown h
  have hsorted := sorted_ahead w
  rw [hsplit, List.pairwise_append, List.pairwise_cons] at hsorted
  refine isNext_iff.mpr ⟨?_, hnew, fun i hi hlt => hbefore i ?_⟩
  · rw [hsplit]
    exact List.mem_append_right before List.mem_cons_self
  · -- Positions from the new one on are not smaller than it.
    rw [hsplit] at hi
    rcases List.mem_append.mp hi with hi | hi
    · exact hi
    · rcases List.mem_cons.mp hi with rfl | hi
      · omega
      · have hgt := hsorted.2.1.1 i hi
        omega

lemma ne_of_mem_ahead (h : i ∈ w.ahead) : w.index? ≠ some i := by
  intro hi
  exact Nat.lt_irrefl i (lt_of_mem_ahead hi h)

/-! ### What a move does before it enters the new panel -/

/-- The law that nothing is entered and only the view of the current panel may act. -/
def aside (T : Toolkit σ) : Law Event (Wizard σ) where
  ok w js w' := entered js = [] ∧ SamePlace w w' ∧
    ∀ i, w.index? ≠ some i → ∀ env, w'.shows T env i = w.shows T env i
  err _ _ _ _ := True
  ok_refl w := ⟨rfl, .refl w, fun _ _ _ => rfl⟩
  ok_trans := by
    rintro w u v js ks ⟨hjs, hplace, hshows⟩ ⟨hks, hplace', hshows'⟩
    refine ⟨by rw [entered_append, hjs, hks]; rfl, hplace.trans hplace', fun i hi env => ?_⟩
    rw [hshows' i (hplace.index ▸ hi), hshows i hi]
  err_trans _ _ := trivial

lemma admitsLooking_aside (T : Toolkit σ) : AdmitsLooking T (aside T) := by
  refine .of_toolkit fun i w => ?_
  unfold Obeys
  rcases hr : reach T.toCrew i w with ⟨failure | ⟨panel, memory⟩, v, js⟩
  · exact trivial
  · obtain ⟨hlooked, hentered⟩ := looked_of_reach hr
    exact ⟨hentered, hlooked.samePlace, fun j _ env => hlooked.shows env j⟩

/-- Whatever the view of the current panel does, the other panels are shown as before. -/
lemma aside_turn {occasion : Occasion} {act : Stage → Attempt Remark (Scene σ) α}
    (hoccasion : occasion ≠ .entering) (hi : w.index? = some i) :
    (turn T occasion i act).Obeys (aside T) w := by
  refine .bind ((admitsLooking_aside T).reach i w) fun ⟨panel, memory⟩ u _ _ hok => ?_
  have hindex : u.index? = some i := hok.2.1.index.trans hi
  unfold Obeys
  dsimp only
  rcases act ⟨panel, T.catalog⟩ ⟨memory, u.env, u.navigation⟩ with ⟨failure | a, scene, remarks⟩
  · exact trivial
  · have hplace : SamePlace u (u.setView i scene.memory) := samePlace_setView i scene.memory u
    refine ⟨entered_turned hoccasion i u.env remarks, ⟨hplace.panels, rfl⟩, fun j hj env => ?_⟩
    have hne : i ≠ j := by
      rintro rfl
      exact hj hindex
    exact shows_setView_of_ne hne scene.memory u env

lemma aside_refresh (w : Wizard σ) : refresh.Obeys (aside T) w := by
  rw [Obeys, refresh_apply]
  cases w.env.refresh with
  | error e => exact trivial
  | ok env =>
    exact ⟨entered_refreshed w.env, ⟨rfl, rfl⟩, fun i _ env' => shows_eq_of_slots rfl env' i⟩

lemma aside_findNext : (findNext T false).Obeys (aside T) w :=
  (admitsLooking_aside T).findNext false

lemma aside_approve (validate : Bool) : (approve T validate).Obeys (aside T) w := by
  cases validate with
  | false => exact .pure true w
  | true =>
    refine .get_bind ?_
    split
    · exact .pure true w
    · next i hi => exact aside_turn (by decide) hi

lemma aside_contribute (new : Nat) (validated : Bool) :
    (contribute T w.index? new validated).Obeys (aside T) w := by
  unfold contribute
  split
  · next old hold =>
    split
    · cases validated with
      | true =>
        rw [depart, if_pos rfl]
        exact aside_turn (by decide) hold
      | false =>
        have hcommit : (commitAt T old).Obeys (aside T) w := aside_turn (by decide) hold
        exact .map _ hcommit
    · exact .pure () w
  · exact .pure () w

/-- Views that change places: the old one goes aside, then the new one is brought up. -/
lemma exists_of_exchange {old? : Option Nat} (hold : w.index? = old?)
    (h : exchange T old? new w = ⟨.ok true, w', js⟩) :
    ∃ v before after, (aside T).ok w before v ∧
      turn T .entering new (fun stage => ofStep (T.hooks.activate stage)) v =
        ⟨.ok true, w', after⟩ ∧ js = before ++ after := by
  cases old? with
  | none => exact ⟨w, [], js, (aside T).ok_refl w, h, rfl⟩
  | some old =>
    obtain ⟨left, v, before, after, hleave, henter, rfl⟩ := exists_of_bind_ok h
    have hok : (aside T).ok w before v := (aside_turn (by decide) hold).ok_of_eq hleave
    cases left with
    | false => cases henter
    | true => exact ⟨v, before, after, hok, henter, rfl⟩

/-- A move concludes when the views have changed places. -/
lemma exists_of_conclude (h : conclude T w.index? new w = ⟨.ok true, w', js⟩) :
    ∃ v v' before after, (aside T).ok w before v ∧
      turn T .entering new (fun stage => ofStep (T.hooks.activate stage)) v =
        ⟨.ok true, v', after⟩ ∧
      w' = arrive w.index? new v' ∧ js = before ++ after := by
  obtain ⟨agreed, v', ks, ls, hexchange, hrest, rfl⟩ := exists_of_bind_ok h
  cases agreed with
  | false => cases hrest
  | true =>
    cases hrest
    obtain ⟨v, before, after, hok, henter, rfl⟩ := exists_of_exchange rfl hexchange
    exact ⟨v, v', before, after, hok, henter, rfl, List.append_nil _⟩

/-- A move that succeeds goes aside, and then enters the new panel. -/
lemma exists_of_switchTo {validated : Bool}
    (h : switchTo T new validated w = ⟨.ok true, w', js⟩) :
    ∃ v v' before after, (aside T).ok w before v ∧
      turn T .entering new (fun stage => ofStep (T.hooks.activate stage)) v =
        ⟨.ok true, v', after⟩ ∧
      w' = arrive w.index? new v' ∧ js = before ++ after := by
  rw [switchTo_eq, Attempt.get_bind] at h
  split at h
  · cases h
  · obtain ⟨enabled, w₁, js₁, ks₁, hgate, hrest₁, rfl⟩ := exists_of_bind_ok h
    have hok₁ := ((admitsLooking_aside T).gate w.index? new).ok_of_eq hgate
    cases enabled with
    | false => cases hrest₁
    | true =>
      rw [← hok₁.2.1.index] at hrest₁ ⊢
      obtain ⟨_, w₂, js₂, ks₂, hcontribute, hrest₂, rfl⟩ := exists_of_bind_ok hrest₁
      have hok₂ := (aside_contribute new validated).ok_of_eq hcontribute
      obtain ⟨_, w₃, js₃, ks₃, hrefresh, hconclude, rfl⟩ := exists_of_bind_ok hrest₂
      have hok₃ := (aside_refresh (T := T) w₂).ok_of_eq hrefresh
      rw [← hok₂.2.1.index, ← hok₃.2.1.index] at hconclude ⊢
      obtain ⟨v, v', before, after, hok₄, henter, harrive, rfl⟩ := exists_of_conclude hconclude
      have hok := (aside T).ok_trans hok₁ ((aside T).ok_trans hok₂ ((aside T).ok_trans hok₃ hok₄))
      refine ⟨v, v', _, after, hok, henter, harrive, ?_⟩
      simp only [List.append_assoc]

/-- The entry for a view that is brought up. -/
lemma entered_of_turn {act : Stage → Attempt Remark (Scene σ) α} {a : α}
    (h : turn T .entering i act w = ⟨.ok a, w', js⟩) :
    entered js = [i] ∧ .turned .entering i w.env ∈ js := by
  obtain ⟨⟨panel, memory⟩, u, ks, ls, hreach, hact, rfl⟩ := exists_of_bind_ok h
  obtain ⟨hlooked, hentered⟩ := looked_of_reach hreach
  have hls : ls = .turned .entering i u.env :: List.map .remarked _ :=
    (congrArg Report.journal hact).symm
  rw [hls, entered_append, hentered, entered_entering, entered_map_remarked, hlooked.env]
  exact ⟨rfl, List.mem_append_right ks List.mem_cons_self⟩

/-! ### The panel that is entered -/

/-- After what a move does aside, the next panel is a matter of the environment alone. -/
lemma isNext_aside (h : (aside T).ok w js v) :
    IsNext T v new ↔ IsNext T { w with env := v.env } new := by
  obtain ⟨-, hplace, hshows⟩ := h
  have hsame (i : Nat) (hi : i ∈ w.ahead) :
      v.shows T v.env i = ({ w with env := v.env } : Wizard σ).shows T v.env i := by
    rw [hshows i (ne_of_mem_ahead hi)]
    exact (shows_eq_of_slots rfl v.env i).symm
  rw [isNext_iff, isNext_iff, hplace.ahead]
  refine and_congr_right fun hnew => and_congr ?_ (forall₂_congr fun i hi => ?_)
  · rw [hsame new hnew]
  · rw [hsame i hi]

/-- The next panel for one environment is the next one for another if and only if the panels up to
it are shown alike. -/
lemma IsNext.iff_shown_alike {env env' : Environment} (h : IsNext T { w with env } new) :
    IsNext T { w with env := env' } new ↔ ∀ i ∈ w.ahead, i ≤ new →
      (canShow T i false { w with env := env' }).result =
        (canShow T i false { w with env }).result := by
  constructor
  · intro h' i hi hle
    rcases Nat.lt_or_eq_of_le hle with hlt | rfl
    · rw [h'.passed i hi hlt, h.passed i hi hlt]
    · rw [h'.shown, h.shown]
  · intro hsame
    refine ⟨h.ahead, ?_, fun i hi hlt => ?_⟩
    · rw [hsame new h.ahead (Nat.le_refl new), h.shown]
    · rw [hsame i hi (Nat.le_of_lt hlt), h.passed i hi hlt]

/-- A move forward that succeeds seeks its target after it has been approved, and then switches to
it. -/
lemma exists_of_next {validate : Bool} (h : next T validate w = ⟨.ok true, w', js⟩) :
    ∃ u u' new js₁ js₂ js₃, approve T validate w = ⟨.ok true, u, js₁⟩ ∧
      findNext T false u = ⟨.ok (some new), u', js₂⟩ ∧
      switchTo T new validate u' = ⟨.ok true, w', js₃⟩ ∧ js = js₁ ++ (js₂ ++ js₃) := by
  rw [next_eq] at h
  obtain ⟨approved, u, js₁, ks₁, happrove, hrest₁, rfl⟩ := exists_of_bind_ok h
  cases approved with
  | false => cases hrest₁
  | true =>
    obtain ⟨target?, u', js₂, ks₂, hfound, hrest₂, rfl⟩ := exists_of_bind_ok hrest₁
    cases target? with
    | none => cases hrest₂
    | some new => exact ⟨u, u', new, js₁, js₂, ks₂, happrove, hfound, hrest₂, rfl⟩

/-- Without validation, and before the first panel is entered, the target is sought at once. -/
lemma env_approve {validate : Bool} (h : validate = false ∨ w.index? = none) :
    (approve T validate w).state.env = w.env := by
  rcases h with rfl | hnone
  · rfl
  · cases validate with
    | false => rfl
    | true =>
      rw [approve, if_pos rfl, isValid, Attempt.get_bind, hnone]
      rfl

/-- **The panel that a move forward enters.**  Let a move forward succeed.  Then one panel is
entered, from some state `v` in which its view is brought up.  It is the next panel for the
environment in which the target was sought: the one after validation, or without validation, and
before the first panel is entered, the one with which the move began.  For the environment of `v`
it is the next panel if and only if no panel up to it is shown differently there. -/
theorem isNext_of_next (T : Toolkit σ) {w : Wizard σ} {validate : Bool}
    (h : (next T validate w).result = .ok true) :
    let sought := (approve T validate w).state.env
    ∃ new v, entered (next T validate w).journal = [new] ∧
      .turned .entering new v.env ∈ (next T validate w).journal ∧
      (next T validate w).state = arrive w.index? new
        (turn T .entering new (fun stage => ofStep (T.hooks.activate stage)) v).state ∧
      IsNext T { w with env := sought } new ∧
      (IsNext T v new ↔ ∀ i ∈ w.ahead, i ≤ new →
        (canShow T i false { w with env := v.env }).result =
          (canShow T i false { w with env := sought }).result) ∧
      (validate = false ∨ w.index? = none → sought = w.env) := by
  intro sought
  rcases hnext : next T.toCrew validate w with ⟨result, w', js⟩
  rw [hnext] at h
  obtain rfl : result = .ok true := h
  obtain ⟨u, u', new, js₁, js₂, js₃, happrove, hfound, hswitch, rfl⟩ := exists_of_next hnext
  obtain ⟨v, v', before, after, hok₃, henter, rfl, rfl⟩ := exists_of_switchTo hswitch
  have hok₁ := (aside_approve validate).ok_of_eq happrove
  have hok₂ := aside_findNext.ok_of_eq hfound
  have hok := (aside T).ok_trans hok₁ ((aside T).ok_trans hok₂ hok₃)
  have hindex : u'.index? = w.index? := hok₂.2.1.index.trans hok₁.2.1.index
  have hsought : sought = u.env := congrArg (·.state.env) happrove
  obtain ⟨hentered, hmem⟩ := entered_of_turn henter
  have hnew : IsNext T { w with env := sought } new := by
    rw [hsought]
    exact (isNext_aside hok₁).mp (isNext_of_findNext hfound)
  refine ⟨new, v, ?_, ?_, ?_, hnew, ?_, env_approve⟩
  · have hsplit : js₁ ++ (js₂ ++ (before ++ after)) = (js₁ ++ (js₂ ++ before)) ++ after := by
      simp only [List.append_assoc]
    have hnone : entered (js₁ ++ (js₂ ++ before)) = [] := hok.1
    rw [hsplit, entered_append, hnone, hentered]
    rfl
  · simp only [List.mem_append]
    exact .inr (.inr (.inr hmem))
  · rw [henter, hindex]
  · rw [isNext_aside hok]
    exact hnew.iff_shown_alike

/-- A wizard whose first panel is only shown while the variable `MODE` is `expert`. -/
def expertPanel (derivations : List Derivation) : Wizard Unit :=
  ofPanels [{ id := "options", className := "Input", condition? := some "expert" },
      { id := "finish", className := "Text" }]
    { derivations
      conditions := ConditionTable.holds (.ofConditions [.equals "expert" "MODE" "expert"]) }

/-- While the variable is not set, the second panel is the next one. -/
theorem isNext_of_expertPanel :
    let T := Toolkit.plain ∅
    let w := expertPanel []
    (next T true w).result = .ok true ∧
      IsNext T { w with env := (approve T true w).state.env } 1 := by
  intro T w
  have hmoved : (next T true w).result = .ok true := by decide +kernel
  have hfinish : entered (next T true w).journal = [1] := by decide +kernel
  obtain ⟨new, v, hentered, -, -, hnext, -⟩ := isNext_of_next T hmoved
  obtain rfl : new = 1 := by simpa [hfinish] using hentered.symm
  exact ⟨hmoved, hnext⟩

/-- The turn that an event tells of: its occasion, the position of the view, and the environment. -/
def turn? : Event → Option (Occasion × Nat × Environment)
  | .turned occasion i env => some (occasion, i, env)
  | _ => none

lemma eq_turned {event : Event} {occasion : Occasion} {env : Environment}
    (h : turn? event = some (occasion, i, env)) : event = .turned occasion i env := by
  cases event <;> cases h
  rfl

/-- When a derivation sets the variable as soon as it is brought up to date, the first panel is
shown by the time the second one is entered. -/
theorem not_isNext_of_derivation :
    let T := Toolkit.plain ∅
    let w := expertPanel [{ name := "MODE", expression := "expert" }]
    Reachable T w ∧ (next T true w).result = .ok true ∧
      entered (next T true w).journal = [1] ∧
      ∃ env, .turned .entering 1 env ∈ (next T true w).journal ∧ 0 ∈ w.ahead ∧
        (canShow T 0 false { w with env }).result = .ok true := by
  intro T w
  have hreachable : Reachable T w := ⟨_, _, [], rfl⟩
  have hmoved : (next T true w).result = .ok true := by decide +kernel
  have hfinish : entered (next T true w).journal = [1] := by decide +kernel
  have hentering : ((next T true w).journal.filterMap turn?).any (fun turn =>
      turn.1 = .entering ∧ turn.2.1 = 1 ∧
        (canShow T 0 false { w with env := turn.2.2 }).result = .ok true) = true := by
    decide +kernel
  obtain ⟨⟨occasion, i, env⟩, hmem, hturn⟩ := List.any_eq_true.mp hentering
  obtain ⟨rfl, rfl, hshown⟩ := of_decide_eq_true hturn
  obtain ⟨event, hevent, hsome⟩ := List.mem_filterMap.mp hmem
  rw [eq_turned hsome] at hevent
  exact ⟨hreachable, hmoved, hfinish, env, hevent, by decide, hshown⟩

end Wizard

end SetupWizard
