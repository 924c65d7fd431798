/-
# Laws that govern wizards

The small steps of a wizard are: reaching a view, letting a view act on one of the occasions that
the wizard knows, and refreshing.  A law *governs* the wizards with some crew when these steps
obey it from every state and none of them changes the place.  Every question to a wizard is then
answered under the law, and a move obeys it up to the arrival, if it comes to that.

* `Reached` lists the ways in which reaching a view can end;
* `Governs.findNext`, … say that the parts of a move obey a governing law;
* `Moved` lists the ways in which a move can end, and `Governs.switchTo`, `Governs.next`,
  `Governs.previous`, `Governs.goTo` say that these are all.
-/
import SetupWizard.Proofs.Wizard.Rollback
import SetupWizard.Wizard.Recording

namespace SetupWizard.Wizard

open Attempt

variable {σ α : Type} {T : Crew σ} {L : Law Event (Wizard σ)} {w : Wizard σ} {i : Nat}

/-! ### Governing laws -/

/-- The small steps of the wizards with a crew obey a law and leave the place alone. -/
structure Governs (T : Crew σ) (L : Law Event (Wizard σ)) : Prop where
  samePlace {w w' : Wizard σ} {js : List Event} : L.ok w js w' → SamePlace w w'
  samePlace_of_err {w w' : Wizard σ} {js : List Event} {failure : Failure} :
    L.err failure w js w' → SamePlace w w'
  reach {w : Wizard σ} {i : Nat} : i < w.size → (reach T i).Obeys L w
  inquire {w : Wizard σ} (visibleOnly : Bool) (panel : Panel) (memory : σ) :
    (inquire T visibleOnly panel memory).Obeys L w
  refresh {w : Wizard σ} : refresh.Obeys L w
  validate {w : Wizard σ} {i : Nat} : i < w.size →
    (turn T .validating i T.hooks.validate).Obeys L w
  commit {w : Wizard σ} {i : Nat} : i < w.size → (turn T .committing i T.hooks.commit).Obeys L w
  save {w : Wizard σ} {i : Nat} : i < w.size →
    (turn T .saving i fun stage => ofStep (T.hooks.save stage)).Obeys L w
  leave {w : Wizard σ} {i : Nat} : i < w.size →
    (turn T .leaving i fun stage => ofStep (T.hooks.deactivate stage)).Obeys L w
  enter {w : Wizard σ} {i : Nat} : i < w.size →
    (turn T .entering i fun stage => ofStep (T.hooks.activate stage)).Obeys L w
  record {w : Wizard σ} {i : Nat} : i < w.size →
    (turn T .recording i (recordOf T)).Obeys L w

/-- The record of a panel, and what its view leaves behind when it is asked for it. -/
lemma recordOf_apply (T : Crew σ) (stage : Stage) (scene : Scene σ) :
    recordOf T stage scene =
      ⟨.ok { panel := stage.panel.id, data := T.hooks.recordData stage scene },
        { scene with env := scene.env.addDerivations (T.recorded stage scene) }, []⟩ := rfl

/-- A view that adds nothing when it is asked for its data leaves all as it is. -/
lemma recordOf_of_recorded_eq_nil {stage : Stage} {scene : Scene σ}
    (h : T.recorded stage scene = []) :
    recordOf T stage scene =
      ⟨.ok { panel := stage.panel.id, data := T.hooks.recordData stage scene }, scene, []⟩ := by
  rw [recordOf_apply, h, Environment.addDerivations_nil]

lemma lt_size_of_mem_ahead (h : i ∈ w.ahead) : i < w.size := by
  unfold ahead at h
  split at h
  · exact List.mem_range.mp h
  · exact List.mem_range.mp (List.mem_of_mem_drop h)

/-- What lies ahead lies behind the current panel. -/
lemma lt_of_mem_ahead {c : Nat} (hc : w.index? = some c) (h : i ∈ w.ahead) : c < i := by
  rw [ahead, hc] at h
  obtain ⟨k, hk, rfl⟩ := List.getElem_of_mem h
  rw [List.getElem_drop, List.getElem_range]
  omega

lemma lt_size_of_mem_behind (hw : w.InBounds) (h : i ∈ w.behind) : i < w.size := by
  unfold behind at h
  split at h
  · cases h
  · next c hc =>
    have hi : i < c := List.mem_range.mp (List.mem_reverse.mp h)
    exact Nat.lt_trans hi (hw c hc)

lemma lt_size_of_mem_visitedPositions (h : i ∈ w.visitedPositions) : i < w.size :=
  List.mem_range.mp (List.mem_filter.mp h).1

namespace Governs

variable (h : Governs T L)
include h

lemma canShow {visibleOnly : Bool} (hi : i < w.size) : (canShow T i visibleOnly).Obeys L w :=
  canShow_eq T i visibleOnly ▸ .bind (h.reach hi) fun (panel, memory) _ _ _ _ =>
    h.inquire visibleOnly panel memory

lemma firstShown {visibleOnly : Bool} {is : List Nat} (his : ∀ i ∈ is, i < w.size) :
    (firstShown T visibleOnly is).Obeys L w := by
  induction is generalizing w with
  | nil => exact .pure _ _
  | cons i is ih =>
    refine .bind (h.canShow (his i List.mem_cons_self)) fun shown w' _ _ hok => ?_
    cases shown with
    | true => exact .pure _ _
    | false =>
      refine ih fun j hj => ?_
      rw [(h.samePlace hok).size]
      exact his j (List.mem_cons_of_mem i hj)

lemma findNext {visibleOnly : Bool} : (findNext T visibleOnly).Obeys L w :=
  .get_bind (h.firstShown fun _ => lt_size_of_mem_ahead)

lemma findPrevious (hw : w.InBounds) : (findPrevious T).Obeys L w :=
  .get_bind (h.firstShown fun _ => lt_size_of_mem_behind hw)

lemma hasNext : (hasNext T).Obeys L w := .map _ h.findNext

lemma hasPrevious (hw : w.InBounds) : (hasPrevious T).Obeys L w := .map _ (h.findPrevious hw)

lemma isLast : (isLast T).Obeys L w := by
  refine .get_bind ?_
  split
  · exact .pure _ _
  · exact .map _ h.findNext

lemma isNextEnabled : (isNextEnabled T).Obeys L w := by
  refine .get_bind ?_
  split
  · exact h.hasNext
  · exact .pure _ _

lemma isPreviousEnabled (hw : w.InBounds) : (isPreviousEnabled T).Obeys L w := by
  refine .get_bind ?_
  split
  · exact h.hasPrevious hw
  · exact .pure _ _

lemma isValid (hw : w.InBounds) : (isValid T).Obeys L w := by
  refine .get_bind ?_
  split
  · exact .pure _ _
  · next i hi => exact h.validate (hw i hi)

lemma depart {validated : Bool} (hi : i < w.size) : (depart T i validated).Obeys L w := by
  unfold Wizard.depart
  split
  · exact h.save hi
  · exact .map _ (h.commit hi)

lemma exchange {old? : Option Nat} {new : Nat} (hold : ∀ i, old? = some i → i < w.size)
    (hnew : new < w.size) : (exchange T old? new).Obeys L w := by
  have henter {w' : Wizard σ} {left : Bool} (hsize : w'.size = w.size) :
      (if left then turn T .entering new fun stage => ofStep (T.hooks.activate stage)
        else pure false : Attempt Event (Wizard σ) Bool).Obeys L w' := by
    cases left with
    | true => exact h.enter (hsize ▸ hnew)
    | false => exact .pure _ _
  cases old? with
  | none => exact .bind (.pure true w) fun left w' _ _ hok => henter (h.samePlace hok).size
  | some old =>
    exact .bind (h.leave (hold old rfl)) fun left w' _ _ hok => henter (h.samePlace hok).size

lemma approve {validate : Bool} (hw : w.InBounds) : (approve T validate).Obeys L w := by
  unfold Wizard.approve
  split
  · exact h.isValid hw
  · exact .pure true w

lemma gate {old? : Option Nat} {new : Nat} : (gate T old? new).Obeys L w := by
  unfold Wizard.gate
  split
  · exact h.isNextEnabled
  · exact .pure true w

lemma contribute {old? : Option Nat} {new : Nat} {validated : Bool}
    (hold : ∀ i, old? = some i → i < w.size) : (contribute T old? new validated).Obeys L w := by
  cases old? with
  | none => exact .pure () w
  | some old =>
    unfold Wizard.contribute
    dsimp only
    split
    · exact h.depart (hold old rfl)
    · exact .pure () w

lemma recordAt {is : List Nat} (his : ∀ i ∈ is, i < w.size) : (recordAt T is).Obeys L w := by
  induction is generalizing w with
  | nil => exact .pure _ _
  | cons i is ih =>
    refine .bind (h.record (his i List.mem_cons_self)) fun _ w' _ _ hok => .map _ ?_
    refine ih fun j hj => ?_
    rw [(h.samePlace hok).size]
    exact his j (List.mem_cons_of_mem i hj)

lemma installationRecord : (installationRecord T).Obeys L w :=
  .get_bind (h.recordAt fun _ => lt_size_of_mem_visitedPositions)

end Governs

/-! ### Moves -/

/-- The ways in which a move to a panel with a property can end: the wizard stays where it is,
fails there, or arrives at such a panel, which is the last one that it entered. -/
inductive Moved (L : Law Event (Wizard σ)) (w : Wizard σ) (P : Nat → Prop) :
    Report Event (Wizard σ) (Except Failure Bool) → Prop
  | stayed {w' : Wizard σ} {js : List Event} : L.ok w js w' → Moved L w P ⟨.ok false, w', js⟩
  | failed {w' : Wizard σ} {js : List Event} {failure : Failure} : L.err failure w js w' →
      Moved L w P ⟨.error failure, w', js⟩
  | arrived {w' : Wizard σ} {js : List Event} {new : Nat} : P new → new < w.size →
      (entered js).getLast? = some new → L.ok w js w' →
      Moved L w P ⟨.ok true, arrive w.index? new w', js⟩

lemma Moved.imp {P Q : Nat → Prop} {report : Report Event (Wizard σ) (Except Failure Bool)}
    (h : Moved L w P report) (hPQ : ∀ i, P i → Q i) : Moved L w Q report := by
  cases h with
  | stayed hok => exact .stayed hok
  | failed herr => exact .failed herr
  | arrived hP hnew hlast hok => exact .arrived (hPQ _ hP) hnew hlast hok

/-- A panel that is found is one of those that were looked at. -/
lemma mem_of_firstShown {visibleOnly : Bool} {is : List Nat} {w' : Wizard σ} {js : List Event}
    (h : firstShown T visibleOnly is w = ⟨.ok (some i), w', js⟩) : i ∈ is := by
  induction is generalizing w js with
  | nil => cases h
  | cons k ks ih =>
    rcases hk : canShow T k visibleOnly w with ⟨failure | shown, v, ls⟩
    · rw [firstShown, bind_of_error hk] at h
      cases h
    · rw [firstShown, bind_of_ok hk] at h
      cases shown with
      | true =>
        cases h
        exact List.mem_cons_self
      | false =>
        rcases hrest : firstShown T visibleOnly ks v with ⟨result, v', ls'⟩
        simp only [Bool.false_eq_true, if_false, hrest, Report.mk.injEq] at h
        obtain ⟨rfl, rfl, rfl⟩ := h
        exact List.mem_cons_of_mem k (ih hrest)

/-- Bringing a view up is an entry for its panel, the last one of its kind. -/
lemma getLast?_entered_turn {act : Stage → Attempt Remark (Scene σ) Bool} {agreed : Bool}
    {w' : Wizard σ} {js : List Event} (h : turn T .entering i act w = ⟨.ok agreed, w', js⟩) :
    (entered js).getLast? = some i := by
  rcases hreach : reach T i w with ⟨failure | ⟨panel, memory⟩, v, ks⟩
  · rw [turn_of_failed_reach hreach] at h
    cases h
  · rw [turn_of_reach hreach] at h
    have hjs : js = ks ++ .turned .entering i v.env :: List.map .remarked _ :=
      (congrArg Report.journal h).symm
    rw [hjs, entered_append, entered_entering, entered_map_remarked, List.getLast?_append]
    rfl

lemma getLast?_entered_exchange {old? : Option Nat} {new : Nat} {w' : Wizard σ} {js : List Event}
    (h : exchange T old? new w = ⟨.ok true, w', js⟩) : (entered js).getLast? = some new := by
  cases old? with
  | none =>
    rw [exchange_none] at h
    exact getLast?_entered_turn h
  | some old =>
    rcases hleave : turn T .leaving old (fun stage => ofStep (T.hooks.deactivate stage)) w with
      ⟨failure | left, v, ks⟩
    · rw [exchange, bind_of_error hleave] at h
      cases h
    · rw [exchange, bind_of_ok hleave] at h
      cases left with
      | false => cases h
      | true =>
        rcases henter : turn T .entering new (fun stage => ofStep (T.hooks.activate stage)) v with
          ⟨result, v', ks'⟩
        simp only [if_true, henter, Report.mk.injEq] at h
        obtain ⟨rfl, rfl, rfl⟩ := h
        rw [entered_append, List.getLast?_append, getLast?_entered_turn henter]
        rfl

namespace Governs

variable (h : Governs T L)
include h

/-- A move that begins with other things ends as the rest of it does. -/
lemma moved_bind {P : Nat → Prop} {m : Attempt Event (Wizard σ) α}
    {f : α → Attempt Event (Wizard σ) Bool} (hm : m.Obeys L w)
    (hf : ∀ a w' js, m w = ⟨.ok a, w', js⟩ → L.ok w js w' → Moved L w' P (f a w')) :
    Moved L w P ((m >>= f) w) := by
  rcases hmw : m w with ⟨failure | a, w', js⟩
  · rw [Obeys, hmw] at hm
    rw [bind_of_error hmw]
    exact .failed hm
  · rw [Obeys, hmw] at hm
    rw [bind_of_ok hmw]
    have hplace := h.samePlace hm
    rcases hrest : f a w' with ⟨result, w'', ks⟩
    have hmoved := hf a w' js hmw hm
    rw [hrest] at hmoved
    cases hmoved with
    | stayed hok => exact .stayed (L.ok_trans hm hok)
    | failed herr => exact .failed (L.err_trans hm herr)
    | @arrived v _ new hP hnew hlast hok =>
      have harrive : arrive w'.index? new v = arrive w.index? new v := by rw [hplace.index]
      rw [harrive]
      refine .arrived hP (hplace.size ▸ hnew) ?_ (L.ok_trans hm hok)
      -- What was entered last is in the journal of the rest.
      rw [entered_append, List.getLast?_append, hlast]
      rfl

lemma conclude {new : Nat} (hw : w.InBounds) (hnew : new < w.size) :
    Moved L w (· = new) (conclude T w.index? new w) := by
  have hexchange := h.exchange hw hnew
  rcases hr : Wizard.exchange T w.index? new w with ⟨failure | agreed, w', js⟩
  · rw [Obeys, hr] at hexchange
    rw [conclude_of_failed hr]
    exact .failed hexchange
  · rw [Obeys, hr] at hexchange
    cases agreed with
    | false =>
      rw [conclude_of_vetoed hr]
      exact .stayed hexchange
    | true =>
      rw [conclude_of_agreed hr]
      exact .arrived rfl hnew (getLast?_entered_exchange hr) hexchange

/-- **A move to a panel under a governing law** keeps the place, or arrives. -/
lemma switchTo {new : Nat} {validated : Bool} (hw : w.InBounds) :
    Moved L w (· = new) (switchTo T new validated w) := by
  rw [switchTo_eq, Attempt.get_bind]
  split
  · exact .stayed (L.ok_refl w)
  · next hnew =>
    refine h.moved_bind h.gate fun enabled w₁ _ _ hok₁ => ?_
    have hplace₁ := h.samePlace hok₁
    cases enabled with
    | false => exact .stayed (L.ok_refl w₁)
    | true =>
      refine h.moved_bind (h.contribute fun i hi => ?_) fun _ w₂ _ _ hok₂ => ?_
      · rw [hplace₁.size]
        exact hw i hi
      have hplace₂ := hplace₁.trans (h.samePlace hok₂)
      refine h.moved_bind h.refresh fun _ w₃ _ _ hok₃ => ?_
      have hplace₃ := hplace₂.trans (h.samePlace hok₃)
      rw [← hplace₃.index]
      refine h.conclude (hplace₃.inBounds hw) ?_
      rw [hplace₃.size]
      exact Nat.lt_of_not_le hnew

/-- A move forward leads to one of the panels ahead. -/
lemma next {validate : Bool} (hw : w.InBounds) : Moved L w (· ∈ w.ahead) (next T validate w) := by
  rw [next_eq]
  refine h.moved_bind (h.approve hw) fun approved w₁ _ _ hok₁ => ?_
  have hplace₁ := h.samePlace hok₁
  cases approved with
  | false => exact .stayed (L.ok_refl w₁)
  | true =>
    -- Validating has not moved the wizard, so what is ahead now was ahead at the beginning.
    refine h.moved_bind h.findNext fun target? w₂ _ hfound hok₂ => ?_
    cases target? with
    | none => exact .stayed (L.ok_refl w₂)
    | some i =>
      have hmem : i ∈ w.ahead := hplace₁.ahead ▸ mem_of_firstShown hfound
      refine (h.switchTo ((h.samePlace hok₂).inBounds (hplace₁.inBounds hw))).imp ?_
      rintro _ rfl
      exact hmem

/-- A move back leads to one of the panels behind. -/
lemma previous (hw : w.InBounds) : Moved L w (· ∈ w.behind) (previous T w) := by
  refine h.moved_bind (h.isPreviousEnabled hw) fun enabled w₁ _ _ hok₁ => ?_
  have hplace₁ := h.samePlace hok₁
  have hw₁ := hplace₁.inBounds hw
  cases enabled with
  | false => exact .stayed (L.ok_refl w₁)
  | true =>
    refine h.moved_bind (h.findPrevious hw₁) fun target? w₂ _ hfound hok₂ => ?_
    cases target? with
    | none => exact .stayed (L.ok_refl w₂)
    | some i =>
      have hmem : i ∈ w.behind := hplace₁.behind ▸ mem_of_firstShown hfound
      refine (h.switchTo ((h.samePlace hok₂).inBounds hw₁)).imp ?_
      rintro _ rfl
      exact hmem

/-- A move to the panel with an id leads to the panel with this id. -/
lemma goTo {id : String} (hw : w.InBounds) :
    Moved L w (w.position? id = some ·) (goTo T id w) := by
  rw [Wizard.goTo, Attempt.get_bind]
  cases w.position? id with
  | none => exact .stayed (L.ok_refl w)
  | some i =>
    refine (h.switchTo hw).imp ?_
    rintro _ rfl
    rfl

end Governs

end SetupWizard.Wizard
