/-
# There and back

A move forward marks the panel that it enters, and a move back takes the marks behind its target
away.  As no panel behind the current one is marked in the first place, a move forward and a move
back to where it began leave the marks as they were (`panels_return`).  And a move back does lead
there, as far as the panels from there on can be shown just as they could when the move forward
sought its target: that one passed over all panels in between (`previous_undoes_next`).
-/
import SetupWizard.Proofs.Wizard.Advance
import SetupWizard.Proofs.Wizard.Moving

namespace SetupWizard.Wizard

open Attempt

variable {σ : Type} {T : Toolkit σ} {w w' u v : Wizard σ} {c i new : Nat} {js : List Event}

/-- The states that calls can lead to from a wizard none of whose panels is visited. -/
def Started (T : Toolkit σ) (w : Wizard σ) : Prop :=
  ∃ panels env calls, (∀ p ∈ panels, p.visited = false) ∧
    w = (session T calls (ofPanels panels env)).state

lemma Started.exists_trail (h : Started T w) : ∃ ts, Trail w ts := by
  obtain ⟨panels, env, calls, hpanels, rfl⟩ := h
  exact ⟨_, (trail_ofPanels hpanels env).session calls⟩

/-- In the trail of a wizard, the current panel is the last. -/
lemma Trail.last {ts : List Nat} (h : Trail w ts) (hc : w.index? = some c) :
    c ∈ w.visitedPositions ∧ ∀ i ∈ w.visitedPositions, i ≤ c := by
  have hlast : ts.getLast? = some c := h.index ▸ hc
  exact ⟨(h.visited c).mpr (marked_getLast hlast), fun i hi =>
    ((h.visited i).mp hi).le_getLast hlast⟩

/-! ### Marks -/

/-- A panel loses its mark on the way back only if it has got it on the way forward. -/
lemma mark_return {marked : Bool} (hlt : c < new) (hcurrent : i = c → marked = true)
    (hlast : marked = true → i ≤ c) :
    (i = c || ((i = new || (marked && keepsMark (some c) new i)) && keepsMark (some new) c i)) =
      marked := by
  have hkept : keepsMark (some c) new i = true := by
    refine keepsMark_iff.mpr fun old hold => .inl ?_
    exact Option.some.inj hold ▸ Nat.le_of_lt hlt
  have htaken : keepsMark (some new) c i = true ↔ i ≤ c := by
    simp [keepsMark_iff, Nat.not_le.mpr hlt]
  rw [Bool.eq_iff_iff]
  simp only [Bool.or_eq_true, Bool.and_eq_true, decide_eq_true_eq, hkept, htaken, and_true]
  constructor
  · rintro (hi | ⟨rfl | hmarked, hle⟩)
    · exact hcurrent hi
    · omega
    · exact hmarked
  · exact fun hmarked => .inr ⟨.inr hmarked, hlast hmarked⟩

/-- **There and back the marks stay the same**, if none lies behind the panel where it begins. -/
lemma panels_return (hlt : c < new) (hcurrent : c ∈ w.visitedPositions)
    (hlast : ∀ i ∈ w.visitedPositions, i ≤ c) (hforward : SamePlace w u)
    (hback : SamePlace (arrive (some c) new u) v) :
    (arrive (some new) c v).panels = w.panels := by
  refine List.ext_getElem? fun i => ?_
  have hpanel : (arrive (some new) c v).panel? i = w.panel? i := by
    rw [panel?_arrive, hback.panel?, panel?_arrive, hforward.panel?, Option.map_map]
    cases hp : w.panel? i with
    | none => rfl
    | some p =>
      have hvisited : i ∈ w.visitedPositions ↔ p.visited = true := by
        simp [mem_visitedPositions, hp]
      have hbegin (hi : i = c) : p.visited = true := by
        subst hi
        exact hvisited.mp hcurrent
      have hmark := mark_return hlt hbegin fun hmarked => hlast i (hvisited.mpr hmarked)
      simp only [Option.map_some, Function.comp_apply, hmark]
  exact hpanel

/-! ### Calls that do not move the wizard -/

lemma navigation_act (hT : T.Cooperative) (i : Nat) (validate : Bool) :
    ((Call.act i validate).perform T w).state.navigation = w.navigation := by
  have h := governs_troubleFree hT
  by_cases hi : i < w.size
  · cases validate with
    | true => exact (steady_of_obeys (.map _ (h.validate hi))).navigation
    | false => exact (steady_of_obeys (.map _ (h.commit hi))).navigation
  · rw [state_act_of_size_le T (Nat.le_of_not_lt hi)]

/-- No call closes the way back but the one that is there for it. -/
lemma open_perform (hT : T.Cooperative) (hw : w.InBounds) {call : Call}
    (hcall : call ≠ .setPrevious false) (hopen : w.navigation.previous = true) :
    (call.perform T w).state.navigation.previous = true := by
  have h := governs_troubleFree hT
  have hkept {w' : Wizard σ} (hsame : w'.navigation = w.navigation) :
      w'.navigation.previous = true := by
    rw [hsame]
    exact hopen
  cases call with
  | move m => exact state_perform_move T m w ▸ hkept (navigation_of_moved (h.perform hw m))
  | ask q => exact hkept (steady_of_obeys (.map _ (h.ask hw q))).navigation
  | act i validate => exact hkept (navigation_act hT i validate)
  | record => exact hkept (steady_of_obeys (.map _ h.installationRecord)).navigation
  | setNext open' => exact hopen
  | setPrevious open' =>
    cases open' with
    | true => rfl
    | false => exact absurd rfl hcall
  | adjust f => exact hopen

/-- While no move succeeds and nobody closes the way back, the wizard stays and the way is open. -/
lemma stays_session (hT : T.Cooperative) (hw : w.InBounds) {calls : List Call}
    (hcalls : ∀ call ∈ calls, call ≠ .setPrevious false)
    (hstays : targets (session T calls w).journal = []) (hopen : w.navigation.previous = true) :
    SamePlace w (session T calls w).state ∧
      (session T calls w).state.navigation.previous = true := by
  induction calls generalizing w with
  | nil => exact ⟨.refl w, hopen⟩
  | cons call calls ih =>
    rw [List.forall_mem_cons] at hcalls
    rw [journal_session_cons, targets_cons, List.append_eq_nil_iff] at hstays
    have hplaced := placed T hw call
    rw [Option.toList_eq_nil_iff.mp hstays.1] at hplaced
    cases hplaced with
    | stayed hplace =>
      obtain ⟨hplace', hopen'⟩ := ih (hplace.inBounds hw) hcalls.2 hstays.2
        (open_perform hT hw hcalls.1 hopen)
      exact ⟨hplace.trans hplace', hopen'⟩

/-! ### Going back -/

/-- A move forward has led to the nearest of the panels that could be shown when it was approved. -/
lemma isLeast_of_next {validate : Bool} (hmoved : (next T validate w).result = .ok true)
    (hnew : (next T validate w).state.index? = some new) :
    let u := (approve T validate w).state
    u.index? = w.index? ∧ IsLeast (showableAhead T u u.env) new := by
  rcases hnext : next T validate w with ⟨result, w', js⟩
  rw [hnext] at hmoved hnew
  obtain rfl : result = .ok true := hmoved
  obtain ⟨u, u', target, _, _, _, happrove, hfound, hswitch, -⟩ := exists_of_next hnext
  obtain ⟨v, v', _, _, -, -, rfl, -⟩ := exists_of_switchTo hswitch
  obtain rfl : target = new := Option.some.inj hnew
  rw [happrove]
  exact ⟨((aside_approve validate).ok_of_eq happrove).2.1.index, isLeast_of_findNext hfound⟩

/-- Of the panels behind the new one, the one where the move forward began is the last that can be
shown, if those from there on can be shown as they were when the move forward was approved. -/
lemma isGreatest_of_alike (hv : v.index? = some new) (hu : u.index? = some c)
    (hleast : IsLeast (showableAhead T u u.env) new) (hshown : Showable T u u.env c)
    (halike : ∀ i < new, c ≤ i → (Showable T v v.env i ↔ Showable T u u.env i)) :
    IsGreatest (showableBehind T v v.env) c := by
  have hlt : c < new := hleast.1.1 c hu
  refine ⟨⟨⟨new, hv, hlt⟩, (halike c hlt (Nat.le_refl c)).mpr hshown⟩, fun i hi => ?_⟩
  obtain ⟨⟨n, hn, hin⟩, hishown⟩ := hi
  obtain rfl : new = n := Option.some.inj (hv.symm.trans hn)
  by_contra hci
  -- A panel in between would have been found on the way forward.
  have hle : c ≤ i := by omega
  have hahead : i ∈ showableAhead T u u.env := by
    refine ⟨fun k hk => ?_, (halike i hin hle).mp hishown⟩
    obtain rfl : c = k := Option.some.inj (hu.symm.trans hk)
    omega
  exact absurd (hleast.2 hahead) (Nat.not_le.mpr hin)

/-- **A move back undoes a move forward.**  Let all views be made, leave the switches alone and
never object.  Let a move forward succeed from a panel `c`, with the way back open, that could be
shown when the move forward sought its target.  Whatever is called on the wizard then, as long as no
move succeeds and nobody closes the way back: if by then the panels from `c` to the one in front of
the new panel can be shown just as they could when the target was sought, and the derived variables
can be brought up to date, a move back succeeds, `c` is the current panel again, and all panels are
as they were, with the same ones visited. -/
theorem previous_undoes_next (hT : T.Cooperative) (hw : Started T w) (hc : w.index? = some c)
    (hopen : w.navigation.previous = true) {validate : Bool} {between : List Call} :
    let u := (approve T validate w).state
    let w' := (next T validate w).state
    let v := (session T between w').state
    (next T validate w).result = .ok true → w'.index? = some new → Showable T u u.env c →
    (∀ call ∈ between, call ≠ .setPrevious false) → targets (session T between w').journal = [] →
    (∀ i < new, c ≤ i → (Showable T v v.env i ↔ Showable T u u.env i)) →
    RefreshesSucceed (previous T v).journal →
      (previous T v).result = .ok true ∧ (previous T v).state.index? = some c ∧
        (previous T v).state.panels = w.panels := by
  intro u w' v hmoved hnew hshown hcalls hstays halike hsucceed
  obtain ⟨ts, htrail⟩ := hw.exists_trail
  have hgoverns := governs_troubleFree hT
  have hnext : Moved (troubleFree T) w (· ∈ w.ahead) (next T validate w) :=
    hgoverns.next htrail.inBounds
  have hw' : w'.InBounds := (place_of_next htrail.inBounds hmoved).1
  have hopen' : w'.navigation.previous = true := by rw [navigation_of_moved hnext, hopen]
  obtain ⟨hstay, hopen''⟩ := stays_session hT hw' hcalls hstays hopen'
  obtain ⟨hcurrent, hleast⟩ := isLeast_of_next hmoved hnew
  have hgreatest : IsGreatest (showableBehind T v v.env) c :=
    isGreatest_of_alike (hstay.index.trans hnew) (hcurrent.trans hc) hleast hshown halike
  have hdecided := previous_decided hT (hstay.inBounds hw') hsucceed
  have hback := hdecided.moved_iff.mpr ⟨hopen'', c, hgreatest.1⟩
  obtain ⟨target, htarget, hright⟩ := hdecided.arrived hback
  obtain rfl : target = c := hright.unique hgreatest
  refine ⟨hback, htarget, ?_⟩
  -- Both moves have changed the place only by arriving.
  obtain ⟨w₁, new₁, hforward, harrive⟩ := exists_arrive_of_moved hnext hmoved
  obtain ⟨v₁, target₁, hbackward, harrive'⟩ :=
    exists_arrive_of_moved (hgoverns.previous (hstay.inBounds hw')) hback
  have hv : v.index? = some new := hstay.index.trans hnew
  rw [harrive'] at htarget ⊢
  obtain rfl : target₁ = target := Option.some.inj htarget
  have hw₁ : w' = arrive (some target₁) new₁ w₁ := hc ▸ harrive
  obtain rfl : new₁ = new := by
    rw [hw₁] at hnew
    exact Option.some.inj hnew
  rw [hv]
  have hlt : target₁ < new₁ := hleast.1.1 target₁ (hcurrent.trans hc)
  obtain ⟨hvisited, hlast⟩ := htrail.last hc
  refine panels_return hlt hvisited hlast hforward.samePlace ?_
  exact hw₁ ▸ hstay.trans hbackward.samePlace

/-- Forward past a conditional panel, and back after a question and a change of the variables. -/
theorem previous_undoes_next_past_condition :
    let T := Toolkit.plain ∅
    let panels : List Panel :=
      [{ id := "welcome", className := "Text" },
        { id := "options", className := "Input", condition? := some "expert" },
        { id := "finish", className := "Text" }]
    let env : Environment :=
      { conditions := ConditionTable.holds (.ofConditions [.equals "expert" "MODE" "expert"]) }
    let w : Wizard Unit := (session T [.move (.next true)] (ofPanels panels env)).state
    let between : List Call :=
      [.ask .hasNext, .adjust (·.mapStore (·.set "NAME" "me")), .move (.next true)]
    let u := (approve T true w).state
    let w' := (next T true w).state
    let v := (session T between w').state
    (T.Cooperative ∧ Started T w ∧ w.index? = some 0 ∧ w.navigation.previous = true ∧
      (next T true w).result = .ok true ∧ w'.index? = some 2 ∧ Showable T u u.env 0 ∧
      (∀ call ∈ between, call ≠ .setPrevious false) ∧
      targets (session T between w').journal = [] ∧
      (∀ i < 2, 0 ≤ i → (Showable T v v.env i ↔ Showable T u u.env i)) ∧
      RefreshesSucceed (previous T v).journal) ∧
      (previous T v).result = .ok true ∧ (previous T v).state.index? = some 0 ∧
        (previous T v).state.panels = w.panels := by
  intro T panels env w between u w' v
  have hT : T.Cooperative := Crew.cooperative_of_idle (fun _ => ()) _ _ _
  have hw : Started T w := ⟨panels, env, [.move (.next true)], by decide, rfl⟩
  have hc : w.index? = some 0 := by decide +kernel
  have hopen : w.navigation.previous = true := by decide +kernel
  have hmoved : (next T true w).result = .ok true := by decide +kernel
  have hnew : w'.index? = some 2 := by decide +kernel
  have hshown : Showable T u u.env 0 := by decide +kernel
  have hcalls : ∀ call ∈ between, call ≠ .setPrevious false := by simp [between]
  have hstays : targets (session T between w').journal = [] := by decide +kernel
  have halike : ∀ i < 2, 0 ≤ i → (Showable T v v.env i ↔ Showable T u u.env i) := by
    decide +kernel
  have hsucceed : RefreshesSucceed (previous T v).journal := by decide +kernel
  -- From here on nothing more has to be computed.
  clear_value w between
  exact ⟨⟨hT, hw, hc, hopen, hmoved, hnew, hshown, hcalls, hstays, halike, hsucceed⟩,
    previous_undoes_next hT hw hc hopen hmoved hnew hshown hcalls hstays halike hsucceed⟩

end SetupWizard.Wizard
