/-
# Data is saved once for each move forward

A wizard is called on in any order, nothing fails and no view objects.  Then the tallies of its
views can be told from the moves that succeeded: a panel's data has been saved as often as the panel
was left for one further ahead, however the wizard was moved there; its view was asked to let go as
often as it was left at all, and to come up as often as it was entered (`saved_of_session`).
-/
import SetupWizard.Proofs.Wizard.Tally

namespace SetupWizard

open Attempt

variable {σ α : Type}

namespace Wizard

variable {T : Crew σ} {w w' : Wizard (σ × Tally)}

/-- The tallies have changed as is due to a call that has moved the wizard between two panels or has
not moved it, unless a view has objected. -/
def Accounted (w w' : Wizard (σ × Tally)) (crossing? : Option (Option Nat × Nat)) : Prop :=
  (∀ p, w'.tallyAt p = (w.tallyAt p).after p crossing?) ∨
    ∃ q, ∀ p, (w'.tallyAt p).objected = (w.tallyAt p).objected + if p = q then 1 else 0

lemma Accounted.objected_le {crossing? : Option (Option Nat × Nat)} (h : Accounted w w' crossing?)
    (p : Nat) : (w.tallyAt p).objected ≤ (w'.tallyAt p).objected := by
  rcases h with h | ⟨q, h⟩
  · rw [h p]
    cases crossing? <;> exact Nat.le_refl _
  · rw [h p]
    exact Nat.le_add_right _ _

/-- If nobody has objected, the tallies are as they should be. -/
lemma Accounted.tallyAt {crossing? : Option (Option Nat × Nat)} (h : Accounted w w' crossing?)
    (hagreed : ∀ p, (w'.tallyAt p).objected = 0) (p : Nat) :
    w'.tallyAt p = (w.tallyAt p).after p crossing? := by
  rcases h with h | ⟨q, h⟩
  · exact h p
  · have hq := h q
    rw [hagreed q, if_pos rfl] at hq
    cases hq

lemma accounted_of_obeys {m : Attempt Event (Wizard (σ × Tally)) α} (h : m.Obeys uncounted w) :
    Accounted w (m w).state none := .inl ((obeys_iff_ok fun _ => rfl).mp h).2

/-- **A move that does not fail** is accounted for. -/
lemma accounted_move {m : Move} (hok : ∀ failure, (m.perform T.tallied w).result ≠ .error failure) :
    Accounted w (m.perform T.tallied w).state ((Call.move m).crossing? T.tallied w) := by
  have hcrossed := (precedes_uncounted T).perform (w := w) m
  generalize hreport : m.perform T.tallied w = report at hcrossed hok
  cases hcrossed with
  | refused hkept =>
    rw [crossing?_of_unsuccessful (by simp [hreport])]
    exact .inl hkept.2
  | failed => exact absurd rfl (hok _)
  | @crossed v js new validated hkept =>
    rcases hcross : cross T.tallied w.index? new validated v with ⟨failure | agreed, w', ls⟩
    · rw [hcross] at hok
      exact absurd rfl (hok failure)
    · rw [hcross] at hreport
      dsimp only
      cases agreed with
      | true =>
        rw [crossing?_of_cross hcross hreport]
        refine .inl fun p => ?_
        rw [tallyAt_cross hcross, hkept.2]
        rfl
      | false =>
        obtain ⟨q, hq⟩ := objected_of_cross hcross
        refine .inr ⟨q, fun p => ?_⟩
        rw [hq, hkept.2]

/-- A call that does not fail is accounted for, other than to put data into the store. -/
lemma accounted_perform {c : Call} (hc : ∀ i, c ≠ .act i false)
    (hok : ∀ failure, (c.perform T.tallied w).result ≠ .error failure) :
    Accounted w (c.perform T.tallied w).state (c.crossing? T.tallied w) := by
  have h := precedes_uncounted T
  cases c with
  | move m =>
    rw [state_perform_move]
    refine accounted_move fun failure hfail => hok failure ?_
    have hperform : (Call.move m).perform T.tallied w = _ :=
      bind_pure_apply (m.perform T.tallied) Answer.flag w
    rw [hperform, hfail]
    rfl
  | ask q => exact accounted_of_obeys (.map _ (h.ask q))
  | act i validate =>
    cases validate with
    | true => exact accounted_of_obeys (.map _ (h.validate i w))
    | false => exact absurd rfl (hc i)
  | record => exact accounted_of_obeys (.map _ (.get_bind (uncounted_recordAt _)))
  | setNext open' => exact .inl fun _ => rfl
  | setPrevious open' => exact .inl fun _ => rfl
  | adjust f => exact .inl fun _ => rfl

/-- A course of calls in which no data is put into the store from outside, nothing fails and nobody
objects. -/
structure Smooth (T : Crew σ) (calls : List Call) (w : Wizard (σ × Tally)) : Prop where
  unput : ∀ c ∈ calls, ∀ i, c ≠ .act i false
  ok : ∀ e ∈ (session T.tallied calls w).journal, ∀ failure, e.result ≠ .error failure
  agreed (p : Nat) : ((session T.tallied calls w).state.tallyAt p).objected = 0

/-- Objections are not forgotten. -/
lemma objected_le_session {calls : List Call} (hcalls : ∀ c ∈ calls, ∀ i, c ≠ .act i false)
    (hok : ∀ e ∈ (session T.tallied calls w).journal, ∀ failure, e.result ≠ .error failure)
    (p : Nat) :
    (w.tallyAt p).objected ≤ ((session T.tallied calls w).state.tallyAt p).objected := by
  induction calls generalizing w with
  | nil => exact Nat.le_refl _
  | cons c cs ih =>
    rw [List.forall_mem_cons] at hcalls
    rw [journal_session_cons, List.forall_mem_cons] at hok
    exact Nat.le_trans ((accounted_perform hcalls.1 hok.1).objected_le p) (ih hcalls.2 hok.2)

namespace Smooth

variable {c : Call} {cs earlier later : List Call}

lemma of_append (h : Smooth T (earlier ++ later) w) :
    Smooth T later (session T.tallied earlier w).state := by
  obtain ⟨hcalls, hok, hagreed⟩ := h
  rw [session_append] at hok hagreed
  exact ⟨(List.forall_mem_append.mp hcalls).2, (List.forall_mem_append.mp hok).2, hagreed⟩

lemma tail (h : Smooth T (c :: cs) w) : Smooth T cs (c.perform T.tallied w).state :=
  ⟨(List.forall_mem_cons.mp h.unput).2, (List.forall_mem_cons.mp h.ok).2, h.agreed⟩

/-- What a call adds to the tallies. -/
lemma tallyAt_perform (h : Smooth T (c :: cs) w) (p : Nat) :
    (c.perform T.tallied w).state.tallyAt p =
      (w.tallyAt p).after p (c.crossing? T.tallied w) := by
  have hagreed (q : Nat) : ((c.perform T.tallied w).state.tallyAt q).objected = 0 :=
    -- Whoever objected now would still have objected in the end.
    Nat.le_zero.mp (h.agreed q ▸ objected_le_session h.tail.unput h.tail.ok q)
  have hc := (List.forall_mem_cons.mp h.unput).1
  exact (accounted_perform hc (List.forall_mem_cons.mp h.ok).1).tallyAt hagreed p

/-- **What a session adds to the tallies** is what its moves add up to. -/
lemma tallyAt_session (h : Smooth T cs w) (p : Nat) :
    (session T.tallied cs w).state.tallyAt p =
      (crossings T.tallied cs w).foldl (fun t x => t.cross p x.1 x.2) (w.tallyAt p) := by
  induction cs generalizing w with
  | nil => rfl
  | cons c cs ih =>
    rw [state_session_cons, ih h.tail, h.tallyAt_perform, crossings, List.foldl_append]
    cases c.crossing? T.tallied w <;> rfl

end Smooth

/-! ### Without the tallies -/

lemma crossing?_mapViews (h : T.hooks.validation? = none) (c : Call) (w : Wizard (σ × Tally)) :
    c.crossing? T (w.mapViews Prod.fst) = c.crossing? T.tallied w := by
  cases c with
  | move m =>
    have hm := matches_image_iff.mp ((corresponds_image (Crew.projects_tallied h)).move m) w
    rw [Call.crossing?, Call.crossing?, hm]
    rcases m.perform T.tallied w with ⟨failure | moved, w', js⟩
    · rfl
    · cases moved <;> rfl
  | _ => rfl

lemma crossings_mapViews (h : T.hooks.validation? = none) (calls : List Call)
    (w : Wizard (σ × Tally)) :
    crossings T calls (w.mapViews Prod.fst) = crossings T.tallied calls w := by
  induction calls generalizing w with
  | nil => rfl
  | cons c cs ih =>
    rw [crossings, crossings, crossing?_mapViews h,
      state_perform_mapViews (Crew.projects_tallied h), ih]

/-- **A panel's data is saved once each time that the panel is left forward.**  Let the views
validate in the standard way, and call on a wizard without putting data into the store from outside;
let no call fail and no view object.  Then the tallies change nothing, and in the end each view has
saved its data as often as its panel was left for one further ahead, has let go as often as its
panel was left, and has come up as often as its panel was entered.  They add up call by call: a move
that is refused, like any other call, adds nothing, and what a successful one adds is what
`Tally.cross` says.  And every move forward hands over in order. -/
theorem saved_of_session (T : Crew σ) (hstandard : T.hooks.validation? = none)
    (panels : List Panel) (env : Environment) (calls : List Call)
    (hcalls : ∀ c ∈ calls, ∀ i, c ≠ .act i false)
    (hok : ∀ e ∈ (session T calls (ofPanels panels env)).journal,
      ∀ failure, e.result ≠ .error failure)
    (hagreed : ∀ p,
      ((session T.tallied calls (ofPanels panels env)).state.tallyAt p).objected = 0) :
    let start : Wizard σ := ofPanels panels env
    let start' : Wizard (σ × Tally) := ofPanels panels env
    let moves := crossings T calls start
    session T calls start = (session T.tallied calls start').mapState (mapViews Prod.fst) ∧
      (∀ p, let tally := (session T.tallied calls start').state.tallyAt p
        tally.saved = moves.countP (fun move => move.1 = some p ∧ p < move.2) ∧
          tally.left = moves.countP (fun move => move.1 = some p) ∧
          tally.entered = moves.countP (fun move => move.2 = p)) ∧
      ∀ earlier c later, calls = earlier ++ c :: later →
        let v := (session T earlier start).state
        let v' := (session T.tallied earlier start').state
        (∀ p, (c.perform T.tallied v').state.tallyAt p =
          (v'.tallyAt p).after p (c.crossing? T v)) ∧
        ∀ m p new, c = .move m → c.crossing? T v = some (some p, new) → p < new →
          HandsOver T p new (m.perform T v) := by
  intro start start' moves
  have hprojects := Crew.projects_tallied hstandard
  have hstart : start'.mapViews Prod.fst = start := mapViews_ofPanels Prod.fst panels env
  have hsession (cs : List Call) :
      session T cs start = (session T.tallied cs start').mapState (mapViews Prod.fst) :=
    hstart ▸ session_mapViews hprojects cs start'
  have hsmooth : Smooth T calls start' := by
    rw [hsession] at hok
    exact ⟨hcalls, hok, hagreed⟩
  refine ⟨hsession calls, fun p => ?_, fun earlier c later hsplit => ?_⟩
  · have hmoves : moves = crossings T.tallied calls start' := by
      rw [← crossings_mapViews hstandard, hstart]
    intro tally
    have htally : tally = _ := hsmooth.tallyAt_session p
    rw [htally, ← hmoves, tallyAt_ofPanels, Tally.foldl_cross]
    simp only [Nat.zero_add, and_self]
  · intro v v'
    have hv : v'.mapViews Prod.fst = v := (congrArg Report.state (hsession earlier)).symm
    constructor
    · rw [hsplit] at hsmooth
      rw [← hv, crossing?_mapViews hstandard]
      exact hsmooth.of_append.tallyAt_perform
    · rintro m p new rfl hcrossing hforward
      exact handsOver_of_crossing hcrossing hforward

/-- Two panels, gone through, back by name, and forward again without validation; then the way back
is closed, and there is no eighth panel. -/
theorem saved_of_return :
    let T : Crew Unit := Toolkit.plain ∅
    let panels : List Panel :=
      [{ id := "welcome", className := "Text" }, { id := "finish", className := "Text" }]
    let calls : List Call :=
      [.move (.next true), .move (.next true), .move (.goTo "welcome"), .move (.next false),
        .setPrevious false, .move .previous, .move (.switchTo 7 false)]
    let start : Wizard Unit := ofPanels panels {}
    let counted := session T.tallied calls (ofPanels panels {})
    (∀ c ∈ calls, ∀ i, c ≠ .act i false) ∧
      (∀ e ∈ (session T calls start).journal, ∀ failure, e.result ≠ .error failure) ∧
      (∀ p, (counted.state.tallyAt p).objected = 0) ∧
      crossings T calls start = [(none, 0), (some 0, 1), (some 1, 0), (some 0, 1)] ∧
      (counted.state.tallyAt 0).saved = 2 ∧ (counted.state.tallyAt 1).saved = 0 ∧
      (counted.state.tallyAt 1).left = 1 ∧ (counted.state.tallyAt 1).entered = 2 ∧
      HandsOver T 0 1
        ((Move.next true).perform T (session T [.move (.next true)] start).state) := by
  intro T panels calls start counted
  have hcalls : ∀ c ∈ calls, ∀ i, c ≠ .act i false := by simp [calls]
  have hresults : ((session T calls start).journal.all fun e => e.result.isOk) = true := by decide
  have hok : ∀ e ∈ (session T calls start).journal, ∀ failure, e.result ≠ .error failure := by
    intro e he failure hfail
    have hresult := List.all_eq_true.mp hresults e he
    rw [hfail] at hresult
    cases hresult
  have hagreed (p : Nat) : (counted.state.tallyAt p).objected = 0 := by
    have hsize : counted.state.size = 2 := by decide
    match p with
    | 0 => decide
    | 1 => decide
    | p + 2 => rw [tallyAt_of_size_le (Nat.le_trans (Nat.le_of_eq hsize) (Nat.le_add_left 2 p))]
  have hmoves : crossings T calls start = [(none, 0), (some 0, 1), (some 1, 0), (some 0, 1)] := by
    decide
  have hcrossing : (Call.move (.next true)).crossing? T
      (session T [.move (.next true)] start).state = some (some 0, 1) := by decide
  obtain ⟨-, hcount, horder⟩ := saved_of_session T rfl panels {} calls hcalls hok hagreed
  rw [hmoves] at hcount
  have hsaved : (counted.state.tallyAt 0).saved = 2 := (hcount 0).1
  have hunsaved : (counted.state.tallyAt 1).saved = 0 := (hcount 1).1
  have hleft : (counted.state.tallyAt 1).left = 1 := (hcount 1).2.1
  have hentered : (counted.state.tallyAt 1).entered = 2 := (hcount 1).2.2
  have hhands : HandsOver T 0 1
      ((Move.next true).perform T (session T [.move (.next true)] start).state) :=
    (horder [.move (.next true)] (.move (.next true)) _ rfl).2 _ 0 1 rfl hcrossing Nat.one_pos
  exact ⟨hcalls, hok, hagreed, hmoves, hsaved, hunsaved, hleft, hentered, hhands⟩

end Wizard

end SetupWizard
