/-
# When the wizard moves

With views that go along with everything (`Crew.Cooperative`), refreshes that succeed, and
validation that comes to a result, no move fails.  Then a move forward or back succeeds exactly when
it may: the data of the panel that is left forward has been approved, the way is open, and some
panel on this way can be shown.  It leads to the nearest of these panels (`moves_nearest`).

What decides the result of a move that does not fail is read off its parts.  Those that look for a
panel agree with each other, because looking leaves the outlook as it is.
-/
import SetupWizard.Proofs.Wizard.Cooperation
import SetupWizard.Proofs.Wizard.Gate
import SetupWizard.Proofs.Wizard.Showable

namespace SetupWizard.Wizard

open Attempt

variable {σ : Type} {T : Toolkit σ} {w w' : Wizard σ} {i new : Nat} {js : List Event}

/-! ### What decides a move that does not fail -/

/-- Views that never object agree whenever they are asked. -/
lemma agreed_of_turn {occasion : Occasion} {hook : Hook σ Bool} {agreed : Bool}
    (hhook : ∀ stage scene, (hook stage scene).result = true)
    (h : turn T occasion i (fun stage => ofStep (hook stage)) w = ⟨.ok agreed, w', js⟩) :
    agreed = true := by
  obtain ⟨panel, memory, u, scene, _, _, _, hact, -, -⟩ := exists_of_turn h
  cases hact
  exact hhook _ _

lemma agreed_of_exchange (hT : T.hooks.NeverObject) {old? : Option Nat} {agreed : Bool}
    (h : exchange T old? new w = ⟨.ok agreed, w', js⟩) : agreed = true := by
  cases old? with
  | none => exact agreed_of_turn hT.activate h
  | some old =>
    cases exchanged h with
    | kept hleave => exact agreed_of_turn hT.deactivate hleave
    | left _ henter => exact agreed_of_turn hT.activate henter

/-- A move to a panel that comes to a result comes to that of its gate. -/
lemma exists_gate_of_switchTo (hT : T.hooks.NeverObject) {validated moved : Bool}
    (hnew : new < w.size) (h : switchTo T new validated w = ⟨.ok moved, w', js⟩) :
    (∃ u ks, gate T w.index? new w = ⟨.ok moved, u, ks⟩) ∧
      (moved = true → w'.index? = some new) := by
  rw [switchTo_eq, Attempt.get_bind, if_neg (Nat.not_le.mpr hnew)] at h
  obtain ⟨enabled, u, ks, _, hgate, hrest, -⟩ := exists_of_bind_ok h
  cases enabled with
  | false =>
    cases hrest
    exact ⟨⟨_, ks, hgate⟩, fun h => by cases h⟩
  | true =>
    have hcross : cross T w.index? new validated u = ⟨.ok moved, w', _⟩ := hrest
    obtain ⟨_, _, _, _, _, _, _, hconclude, -⟩ := exists_of_cross hcross
    obtain ⟨v, hexchange, rfl⟩ := exists_of_conclude_ok hconclude
    obtain rfl : moved = true := agreed_of_exchange hT hexchange
    exact ⟨⟨u, ks, hgate⟩, fun _ => rfl⟩

/-- A move to a panel ahead succeeds if and only if the way forward is open. -/
lemma moved_iff_of_switchTo (hT : T.hooks.NeverObject) {validated moved : Bool}
    (hahead : new ∈ w.ahead) (h : switchTo T new validated w = ⟨.ok moved, w', js⟩) :
    (moved = true ↔ w.navigation.next = true ∧ (showableAhead T w w.env).Nonempty) ∧
      (moved = true → w'.index? = some new) := by
  obtain ⟨⟨u, ks, hgate⟩, harrived⟩ :=
    exists_gate_of_switchTo hT (lt_size_of_mem_ahead hahead) h
  rw [gate, if_pos (isForward_of_mem_ahead hahead)] at hgate
  exact ⟨isNextEnabled_iff hgate, harrived⟩

/-- A move to a panel behind succeeds. -/
lemma moved_of_switchTo (hT : T.hooks.NeverObject) {validated moved : Bool} (hw : w.InBounds)
    (hbehind : new ∈ w.behind) (h : switchTo T new validated w = ⟨.ok moved, w', js⟩) :
    moved = true ∧ w'.index? = some new := by
  obtain ⟨c, hc, hlt⟩ := mem_behind_iff.mp hbehind
  obtain ⟨⟨u, ks, hgate⟩, harrived⟩ :=
    exists_gate_of_switchTo hT (lt_size_of_mem_behind hw hbehind) h
  have hback : isForward w.index? new = false :=
    isForward_eq_false_iff.mpr ⟨c, hc, Nat.le_of_lt hlt⟩
  rw [gate, if_neg (Bool.eq_false_iff.mp hback)] at hgate
  obtain rfl : true = moved := Except.ok.inj (congrArg Report.result hgate)
  exact ⟨rfl, harrived rfl⟩

/-- A move comes to a result; it succeeds if and only if it may, and then leads to the right
panel. -/
structure Decided (report : Report Event (Wizard σ) (Except Failure Bool)) (May : Prop)
    (Right : Nat → Prop) : Prop where
  exists_result : ∃ moved, report.result = .ok moved
  moved_iff : report.result = .ok true ↔ May
  arrived : report.result = .ok true → ∃ new, report.state.index? = some new ∧ Right new

lemma Decided.of_ok {May : Prop} {Right : Nat → Prop} {moved : Bool}
    (h : (moved = true ↔ May) ∧ (moved = true → ∃ new, w.index? = some new ∧ Right new)) :
    Decided ⟨.ok moved, w, js⟩ May Right :=
  ⟨⟨moved, rfl⟩, Except.ok.injEq moved true ▸ h.1, fun hmoved => h.2 (Except.ok.inj hmoved)⟩

lemma approve_eq_true_iff {validate : Bool} : (approve T validate w).result = .ok true ↔
    validate = false ∨ w.index? = none ∨ (isValid T w).result = .ok true := by
  cases validate with
  | false => exact iff_of_true rfl (.inl rfl)
  | true =>
    have hvalid (hnone : w.index? = none) : (isValid T w).result = .ok true := by
      rw [isValid, Attempt.get_bind, hnone]
      rfl
    simp only [approve, if_true, reduceCtorEq, false_or]
    exact ⟨.inr, fun h => h.elim hvalid id⟩

/-- What decides a move forward: the approval, the switch, and whether a panel can be shown. -/
lemma next_decided (hT : T.Cooperative) (hw : w.InBounds) {validate : Bool}
    (huntroubled : Untroubled T w (next T validate w).journal) :
    let sought := (approve T validate w).state.env
    Decided (next T validate w)
      ((approve T validate w).result = .ok true ∧ w.navigation.next = true ∧
        (showableAhead T w sought).Nonempty)
      (IsLeast (showableAhead T w sought)) := by
  intro sought
  have hgoverns := governs_troubleFree hT
  obtain ⟨moved, w', js, hnext⟩ := exists_eq_of_moved (hgoverns.next hw) huntroubled
  rw [hnext]
  refine .of_ok ?_
  rw [next_eq] at hnext
  obtain ⟨approved, u, _, _, happrove, hrest, -⟩ := exists_of_bind_ok hnext
  have hsteady : Steady w u := (hgoverns.approve hw).ok_of_eq happrove
  have hahead (env : Environment) : showableAhead T u env = showableAhead T w env :=
    showableAhead_aside ((aside_approve validate).ok_of_eq happrove) env
  have hsought : sought = u.env := congrArg (·.state.env) happrove
  rw [happrove, hsought]
  cases approved with
  | false =>
    cases hrest
    simp
  | true =>
    obtain ⟨found?, u', _, _, hfound, hswitch, -⟩ := exists_of_bind_ok hrest
    have halike := alike_of_findNext hfound
    cases found? with
    | none =>
      have hnone := isSome_findNext_iff hfound
      rw [hahead] at hnone
      cases hswitch
      simp [← hnone]
    | some new =>
      have hleast := isLeast_of_findNext hfound
      have hmem : new ∈ u'.ahead := halike.samePlace.ahead ▸ (mem_showableAhead.mp hleast.1).1
      obtain ⟨hmoved, harrived⟩ := moved_iff_of_switchTo hT.neverObject hmem hswitch
      -- The gate looks for a panel once more, and agrees with the search.
      rw [halike.navigation, hsteady.navigation, halike.env, halike.showableAhead, hahead] at hmoved
      rw [hahead] at hleast
      exact ⟨hmoved.trans (and_iff_right rfl).symm, fun hmoved => ⟨new, harrived hmoved, hleast⟩⟩

/-! ### The way back -/

/-- What may be put down in a journal while the wizard moves back: views are left and entered, and
what validators are asked is what these views ask them. -/
def IsRetreat (T : Toolkit σ) : Event → Prop
  | .turned occasion _ _ => occasion = .leaving ∨ occasion = .entering
  | .remarked (.checked validator store) => ∃ stage scene, .checked validator store ∈
      (T.hooks.deactivate stage scene).journal ++ (T.hooks.activate stage scene).journal
  | _ => True

/-- The law that nothing else is put down. -/
def retreating (T : Toolkit σ) : Law Event (Wizard σ) where
  ok _ js _ := ∀ event ∈ js, IsRetreat T event
  err _ _ js _ := ∀ event ∈ js, IsRetreat T event
  ok_refl _ _ h := absurd h List.not_mem_nil
  ok_trans h h' := List.forall_mem_append.mpr ⟨h, h'⟩
  err_trans h h' := List.forall_mem_append.mpr ⟨h, h'⟩

lemma retreating_reach (i : Nat) (w : Wizard σ) : (reach T i).Obeys (retreating T) w := by
  have h := reached T i w
  refine (obeys_iff_ok fun _ => rfl).mpr ?_
  generalize reach T.toCrew i w = report at h
  cases h with
  | known | missing => exact (retreating T).ok_refl w
  | created | refused =>
    intro event hevent
    rw [List.mem_singleton.mp hevent]
    exact trivial

lemma admitsLooking_retreating (T : Toolkit σ) : AdmitsLooking T (retreating T) :=
  .of_toolkit retreating_reach

lemma retreating_refresh : refresh.Obeys (retreating T) w := by
  refine (obeys_iff_ok fun _ => rfl).mpr ?_
  have hjournal : (refresh w).journal = Event.refreshed w.env ::
      w.env.evaluations.map fun e => Event.remarked (.evaluated e) := by
    rw [refresh_apply]
    cases w.env.refresh <;> rfl
  rw [hjournal]
  rintro event (_ | ⟨_, hevent⟩)
  · exact trivial
  · obtain ⟨e, -, rfl⟩ := List.mem_map.mp hevent
    exact trivial

/-- A view that is left or entered may ask validators by itself. -/
lemma retreating_turn {occasion : Occasion} {hook : Hook σ Bool}
    (hoccasion : occasion = .leaving ∨ occasion = .entering)
    (hhook : ∀ stage scene, ∀ remark ∈ (hook stage scene).journal, remark ∈
      (T.hooks.deactivate stage scene).journal ++ (T.hooks.activate stage scene).journal) :
    (turn T occasion i fun stage => ofStep (hook stage)).Obeys (retreating T) w := by
  refine .bind (retreating_reach i w) fun (panel, memory) v _ _ _ => ?_
  refine (obeys_iff_ok fun _ => rfl).mpr ?_
  rintro event (_ | ⟨_, hevent⟩)
  · exact hoccasion
  · obtain ⟨remark, hremark, rfl⟩ := List.mem_map.mp hevent
    cases remark with
    | checked validator store => exact ⟨_, _, hhook _ _ _ hremark⟩
    | _ => exact trivial

lemma retreating_leave : (turn T .leaving i fun stage =>
    ofStep (T.hooks.deactivate stage)).Obeys (retreating T) w :=
  retreating_turn (.inl rfl) fun _ _ _ => List.mem_append_left _

lemma retreating_enter : (turn T .entering i fun stage =>
    ofStep (T.hooks.activate stage)).Obeys (retreating T) w :=
  retreating_turn (.inr rfl) fun _ _ _ => List.mem_append_right _

lemma retreating_conclude (old? : Option Nat) :
    (conclude T old? new).Obeys (retreating T) w := by
  refine .bind ?_ fun agreed u _ _ _ => ?_
  · cases old? with
    | none => exact retreating_enter
    | some old =>
      refine .bind retreating_leave fun left u _ _ _ => ?_
      cases left with
      | true => exact retreating_enter
      | false => exact .pure false u
  · cases agreed with
    | true => exact .bind ((retreating T).ok_refl u :) fun _ _ _ _ _ => .pure true _
    | false => exact .pure false u

/-- A move to a panel behind neither passes the gate nor puts any data into the store. -/
lemma retreating_switchTo {validated : Bool} (hback : isForward w.index? new = false) :
    (switchTo T new validated).Obeys (retreating T) w := by
  have hgate : gate T.toCrew w.index? new = pure true := by simp [gate, hback]
  have hcontribute : contribute T.toCrew w.index? new validated = pure () := by
    unfold contribute
    cases hc : w.index? with
    | none => rfl
    | some c => simp [← hc, hback]
  rw [switchTo_eq]
  refine .get_bind ?_
  split
  · exact .pure false w
  · rw [hgate, hcontribute, pure_bind, if_pos rfl, pure_bind]
    exact .bind retreating_refresh fun _ _ _ _ _ => retreating_conclude w.index?

lemma retreating_previous : (previous T).Obeys (retreating T) w := by
  refine .bind (admitsLooking_retreating T).isPreviousEnabled fun enabled u _ _ _ => ?_
  cases enabled with
  | false => exact .pure false u
  | true =>
    refine .bind (admitsLooking_retreating T).findPrevious fun found? u' _ hfound _ => ?_
    cases found? with
    | none => exact .pure false u'
    | some new =>
      obtain ⟨⟨c, hc, hlt⟩, -⟩ := (isGreatest_of_findPrevious hfound).1
      have hindex : u'.index? = some c := (alike_of_findPrevious hfound).index.trans hc
      refine retreating_switchTo ?_
      rw [hindex]
      exact isForward_eq_false_iff.mpr ⟨c, rfl, Nat.le_of_lt hlt⟩

/-- **On the way back nothing is validated or saved.** -/
lemma isRetreat_of_previous : ∀ event ∈ (previous T w).journal, IsRetreat T event :=
  (obeys_iff_ok fun _ => rfl).mp retreating_previous

/-- What decides a move back: the switch, and whether a panel can be shown. -/
lemma previous_decided (hT : T.Cooperative) (hw : w.InBounds)
    (hsucceed : RefreshesSucceed (previous T w).journal) :
    Decided (previous T w)
      (w.navigation.previous = true ∧ (showableBehind T w w.env).Nonempty)
      (IsGreatest (showableBehind T w w.env)) := by
  have huntroubled : Untroubled T w (previous T w).journal := by
    refine ⟨hsucceed, fun i env hmem => ?_⟩
    -- Nothing is validated on the way back.
    have hretreat := isRetreat_of_previous _ hmem
    simp [IsRetreat] at hretreat
  obtain ⟨moved, w', js, hprevious⟩ :=
    exists_eq_of_moved ((governs_troubleFree hT).previous hw) huntroubled
  rw [hprevious]
  refine .of_ok ?_
  obtain ⟨enabled, u, _, _, hlook, hrest, -⟩ := exists_of_bind_ok hprevious
  have hlooked := alike_of_isPreviousEnabled hlook
  have henabled := isPreviousEnabled_iff hlook
  cases enabled with
  | false =>
    cases hrest
    exact ⟨henabled, fun h => by cases h⟩
  | true =>
    obtain ⟨found?, u', _, _, hfound, hswitch, -⟩ := exists_of_bind_ok hrest
    have halike := hlooked.trans (alike_of_findPrevious hfound)
    cases found? with
    | none =>
      -- The panel that made the way back open is found again.
      have hnone := isSome_findPrevious_iff hfound
      rw [hlooked.env, hlooked.showableBehind] at hnone
      exact absurd (hnone.mpr (henabled.mp rfl).2) Bool.false_ne_true
    | some new =>
      have hgreatest := isGreatest_of_findPrevious hfound
      rw [hlooked.env, hlooked.showableBehind] at hgreatest
      have hmem : new ∈ u'.behind := halike.samePlace.behind ▸ (mem_showableBehind.mp hgreatest.1).1
      obtain ⟨rfl, harrived⟩ :=
        moved_of_switchTo hT.neverObject (halike.samePlace.inBounds hw) hmem hswitch
      exact ⟨henabled, fun _ => ⟨new, harrived, hgreatest⟩⟩

/-! ### The nearest panel -/

/-- The environment in which a move forward seeks its target. -/
lemma env_approve_eq (validate : Bool) : (approve T validate w).state.env =
    if validate then (isValid T w).state.env else w.env := by
  cases validate <;> rfl

/-- **A move leads to the nearest panel that can be shown.**  Let the current panel be one of the
panels, as in every state that calls lead to (`Reachable.inBounds`).  Let all views be made, leave
the switches alone and never object, and let the refreshes of a move succeed.

Let the validation of every panel come to a result.  Then a move forward comes to a result.  It
succeeds if and only if it does not validate, or no panel is current, or the data of the current
panel is valid; the way forward is open; and a panel ahead can be shown after validation.  It leads
to the first of these.

A move back comes to a result, too.  It succeeds if and only if a panel is current, the way back is
open, and a panel before the current one can be shown.  It leads to the last of these, and on the
way no view is asked to validate or to save its data. -/
theorem moves_nearest (hT : T.Cooperative) (hw : w.InBounds) :
    (∀ validate : Bool, Validates T w → RefreshesSucceed (next T validate w).journal →
      let sought := if validate then (isValid T w).state.env else w.env
      Decided (next T validate w)
        ((validate = false ∨ w.index? = none ∨ (isValid T w).result = .ok true) ∧
          w.navigation.next = true ∧ (showableAhead T w sought).Nonempty)
        (IsLeast (showableAhead T w sought))) ∧
    (RefreshesSucceed (previous T w).journal →
      Decided (previous T w)
        (w.index? ≠ none ∧ w.navigation.previous = true ∧ (showableBehind T w w.env).Nonempty)
        (IsGreatest (showableBehind T w w.env))) ∧
    ∀ event ∈ (previous T w).journal, IsRetreat T event := by
  refine ⟨fun validate hvalidates hsucceed => ?_, fun hsucceed => ?_, isRetreat_of_previous⟩
  · intro sought
    have hdecided := next_decided hT hw ⟨hsucceed, fun _ _ _ => hvalidates⟩
    rw [env_approve_eq, approve_eq_true_iff] at hdecided
    exact hdecided
  · obtain ⟨hresult, hmoved, harrived⟩ := previous_decided hT hw hsucceed
    refine ⟨hresult, hmoved.trans (iff_and_self.mpr ?_), harrived⟩
    -- What lies behind the current panel lies behind some panel.
    rintro ⟨-, i, ⟨c, hc, -⟩, -⟩ hnone
    rw [hnone] at hc
    cases hc

/-- Between the first panel and the last there are one that is hidden, one whose condition does not
hold, and one whose view does not agree. -/
theorem moves_nearest_past_hiddenPanels :
    let filled : Validator := fun _ store => if store.contains "X" then .passed else .rejected "X?"
    let T : Toolkit Unit :=
      { create := fun _ => .ok ()
        hooks := { canShow := fun _ panel _ => panel.className != "Picky" }
        catalog := .ofList [("filled", filled)] }
    let panels : List Panel :=
      [{ id := "welcome", className := "Input", validators := ["filled"] },
        { id := "hidden", className := "Text", visible := false },
        { id := "options", className := "Input", condition? := some "expert" },
        { id := "picky", className := "Picky" },
        { id := "finish", className := "Text" }]
    let env : Environment :=
      { store := .ofList [("X", "1")], derivations := [{ name := "Y", expression := "$X" }] }
    let w := (session T [.move (.next true)] (ofPanels panels env)).state
    let v := (next T true w).state
    (T.Cooperative ∧ w.InBounds ∧ Validates T w ∧ RefreshesSucceed (next T true w).journal ∧
      v.index? = some 4 ∧ IsLeast (showableAhead T w (isValid T w).state.env) 4) ∧
    (v.InBounds ∧ RefreshesSucceed (previous T v).journal ∧
      (previous T v).state.index? = some 0 ∧ IsGreatest (showableBehind T v v.env) 0) := by
  intro filled T panels env w v
  have hT : T.Cooperative := Crew.cooperative_of_idle (fun _ => ()) _ _ _
  have hw : w.InBounds := inBounds_session T.toCrew (inBounds_ofPanels panels env)
  have hv : v.InBounds := by
    have hstate : ((Call.move (.next true)).perform T w).state = v :=
      state_perform_move T.toCrew (.next true) w
    exact hstate ▸ (placed T.toCrew hw _).inBounds hw
  have hvalidates : Validates T w := validates_of_supplied hT.sparesSwitches rfl (by decide +kernel)
  have hsucceed : RefreshesSucceed (next T true w).journal := by decide +kernel
  have hsucceed' : RefreshesSucceed (previous T v).journal := by decide +kernel
  have hforward : (next T true w).result = .ok true := by decide +kernel
  have hback : (previous T v).result = .ok true := by decide +kernel
  have hlast : v.index? = some 4 := by decide +kernel
  have hfirst : (previous T v).state.index? = some 0 := by decide +kernel
  obtain ⟨new, hnew, hleast⟩ := ((moves_nearest hT hw).1 true hvalidates hsucceed).arrived hforward
  obtain ⟨new', hnew', hgreatest⟩ := ((moves_nearest hT hv).2.1 hsucceed').arrived hback
  obtain rfl : 4 = new := Option.some.inj (hlast.symm.trans hnew)
  obtain rfl : 0 = new' := Option.some.inj (hfirst.symm.trans hnew')
  exact ⟨⟨hT, hw, hvalidates, hsucceed, hlast, hleast⟩, hv, hsucceed', hfirst, hgreatest⟩

end SetupWizard.Wizard
