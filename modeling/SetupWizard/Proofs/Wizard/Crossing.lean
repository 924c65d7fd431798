/-
# Crossing over to another panel

A move first finds out whether and where it leads.  For this, views are reached and the current
panel may be validated, but no view is asked to save its data, to let go or to come up.  Then the
move crosses over (`cross`): a move forward saves the data of the panel that is left, the derived
variables are brought up to date, and the views change places.  Every move either ends before it
crosses over or crosses over once (`Crossed`), and a move forward that succeeds does these things in
this order (`HandsOver`).
-/
import SetupWizard.Proofs.Wizard.Looking
import SetupWizard.Proofs.Wizard.Views

namespace SetupWizard

open Attempt

/-- The panels that a call moves the wizard between, if it is a move that succeeds. -/
def Call.crossing? {σ : Type} (T : Crew σ) (w : Wizard σ) : Call → Option (Option Nat × Nat)
  | .move m =>
    match m.perform T w with
    | ⟨.ok true, w', _⟩ => w'.index?.map fun new => (w.index?, new)
    | _ => none
  | _ => none

/-- The moves that succeed in the course of some calls, by the panels that they lead from and to. -/
def crossings {σ : Type} (T : Crew σ) : List Call → Wizard σ → List (Option Nat × Nat)
  | [], _ => []
  | c :: cs, w => (c.crossing? T w).toList ++ crossings T cs (c.perform T w).state

namespace Wizard

variable {σ α : Type} {T : Crew σ} {L : Law Event (Wizard σ)} {w w' : Wizard σ} {i p new : Nat}
  {js : List Event}

/-- The part of a move that comes after its target has been found and the gate has been passed. -/
def cross (T : Crew σ) (old? : Option Nat) (new : Nat) (validated : Bool) :
    Attempt Event (Wizard σ) Bool := do
  contribute T old? new validated
  refresh
  conclude T old? new

/-- A law for what happens before a move crosses over: views are reached and panels are validated,
and the place is kept. -/
structure Precedes (T : Crew σ) (L : Law Event (Wizard σ)) : Prop where
  samePlace {w w' : Wizard σ} {js : List Event} : L.ok w js w' → SamePlace w w'
  looking : AdmitsLooking T L
  validate (i : Nat) (w : Wizard σ) : (validateAt T i).Obeys L w

/-- The ways in which a move can end: without success before it has crossed over, or as crossing
over ends. -/
inductive Crossed (T : Crew σ) (L : Law Event (Wizard σ)) (w : Wizard σ) :
    Report Event (Wizard σ) (Except Failure Bool) → Prop
  | refused {w' : Wizard σ} {js : List Event} : L.ok w js w' → Crossed T L w ⟨.ok false, w', js⟩
  | failed {w' : Wizard σ} {js : List Event} {failure : Failure} : L.err failure w js w' →
      Crossed T L w ⟨.error failure, w', js⟩
  | crossed {v : Wizard σ} {js : List Event} (new : Nat) (validated : Bool) : L.ok w js v →
      Crossed T L w ⟨(cross T w.index? new validated v).result,
        (cross T w.index? new validated v).state,
        js ++ (cross T w.index? new validated v).journal⟩

namespace Precedes

variable (h : Precedes T L)
include h

lemma isValid : (isValid T).Obeys L w := by
  refine .get_bind ?_
  split
  · exact .pure _ _
  · exact h.validate _ w

lemma approve (validate : Bool) : (approve T validate).Obeys L w := by
  cases validate with
  | true => exact h.isValid
  | false => exact .pure true w

lemma ask (q : Query) : (q.perform T).Obeys L w := by
  cases q with
  | hasNext => exact h.looking.hasNext
  | hasPrevious => exact h.looking.hasPrevious
  | isLast => exact h.looking.isLast
  | isNextEnabled => exact h.looking.isNextEnabled
  | isPreviousEnabled => exact h.looking.isPreviousEnabled
  | isValid => exact h.isValid

/-- A move that begins with other things crosses over as the rest of it does. -/
lemma crossed_bind {m : Attempt Event (Wizard σ) α} {f : α → Attempt Event (Wizard σ) Bool}
    (hm : m.Obeys L w) (hf : ∀ a w', SamePlace w w' → Crossed T L w' (f a w')) :
    Crossed T L w ((m >>= f) w) := by
  rcases hmw : m w with ⟨failure | a, w', js⟩
  · rw [Obeys, hmw] at hm
    rw [bind_of_error hmw]
    exact .failed hm
  · have hok : L.ok w js w' := hm.ok_of_eq hmw
    have hrest := hf a w' (h.samePlace hok)
    rw [bind_of_ok hmw]
    generalize f a w' = report at hrest
    cases hrest with
    | refused hok' => exact .refused (L.ok_trans hok hok')
    | failed herr => exact .failed (L.err_trans hok herr)
    | @crossed v ks new validated hok' =>
      rw [(h.samePlace hok).index, ← List.append_assoc]
      exact .crossed new validated (L.ok_trans hok hok')

lemma switchTo (new : Nat) (validated : Bool) : Crossed T L w (switchTo T new validated w) := by
  rw [switchTo_eq, Attempt.get_bind]
  split
  · exact .refused (L.ok_refl w)
  · refine h.crossed_bind (h.looking.gate w.index? new) fun enabled w₁ hplace => ?_
    cases enabled with
    | false => exact .refused (L.ok_refl w₁)
    | true =>
      rw [← hplace.index]
      exact .crossed new validated (L.ok_refl w₁)

lemma next (validate : Bool) : Crossed T L w (next T validate w) := by
  rw [next_eq]
  refine h.crossed_bind (h.approve validate) fun approved w₁ _ => ?_
  cases approved with
  | false => exact .refused (L.ok_refl w₁)
  | true =>
    refine h.crossed_bind (h.looking.findNext false) fun target? w₂ _ => ?_
    cases target? with
    | none => exact .refused (L.ok_refl w₂)
    | some i => exact h.switchTo i validate

lemma previous : Crossed T L w (previous T w) := by
  refine h.crossed_bind h.looking.isPreviousEnabled fun enabled w₁ _ => ?_
  cases enabled with
  | false => exact .refused (L.ok_refl w₁)
  | true =>
    refine h.crossed_bind h.looking.findPrevious fun target? w₂ _ => ?_
    cases target? with
    | none => exact .refused (L.ok_refl w₂)
    | some i => exact h.switchTo i false

lemma goTo (id : String) : Crossed T L w (goTo T id w) := by
  rw [Wizard.goTo, Attempt.get_bind]
  cases w.position? id with
  | none => exact .refused (L.ok_refl w)
  | some i => exact h.switchTo i false

/-- **Every move crosses over at most once**, and before that it keeps to the law. -/
lemma perform (m : Move) : Crossed T L w (m.perform T w) := by
  cases m with
  | next validate => exact h.next validate
  | previous => exact h.previous
  | goTo id => exact h.goTo id
  | switchTo i validate => exact h.switchTo i validate

end Precedes

/-! ### What a view leaves behind -/

/-- The wizard after the view of the panel at a position has acted. -/
def enact (i : Nat) (scene : Scene σ) (w : Wizard σ) : Wizard σ :=
  { w.setView i scene.memory with env := scene.env, navigation := scene.navigation }

/-- A turn that succeeds: the view is reached, and then it acts. -/
lemma exists_of_turn {occasion : Occasion} {act : Stage → Attempt Remark (Scene σ) α} {a : α}
    (h : turn T occasion i act w = ⟨.ok a, w', js⟩) :
    ∃ panel memory u scene ks remarks, reach T i w = ⟨.ok (panel, memory), u, ks⟩ ∧
      act ⟨panel, T.catalog⟩ ⟨memory, u.env, u.navigation⟩ = ⟨.ok a, scene, remarks⟩ ∧
      w' = u.enact i scene ∧ js = ks ++ .turned occasion i u.env :: remarks.map .remarked := by
  rcases hreach : reach T i w with ⟨failure | ⟨panel, memory⟩, u, ks⟩
  · rw [turn_of_failed_reach hreach] at h
    cases h
  · rw [turn_of_reach hreach] at h
    dsimp only at h
    rcases hact : act ⟨panel, T.catalog⟩ ⟨memory, u.env, u.navigation⟩ with ⟨result, scene, remarks⟩
    rw [hact] at h
    cases h
    exact ⟨panel, memory, u, scene, ks, remarks, rfl, hact, rfl, rfl⟩

/-- A commit that succeeds ends with the saving of the data. -/
lemma exists_of_commit {hooks : Hooks σ} {stage : Stage} {scene scene' : Scene σ} {b : Bool}
    {remarks : List Remark} (h : hooks.commit stage scene = ⟨.ok b, scene', remarks⟩) :
    ∃ scene₁, scene' = (hooks.save stage scene₁).state := by
  obtain ⟨_, scene₁, _, _, _, h, -⟩ := exists_of_bind_ok h
  obtain ⟨_, scene₂, _, _, _, h, -⟩ := exists_of_bind_ok h
  obtain ⟨_, scene₃, _, _, _, h, -⟩ := exists_of_bind_ok h
  obtain ⟨_, scene₄, _, _, hsave, h, -⟩ := exists_of_bind_ok h
  cases h
  cases hsave
  exact ⟨scene₃, rfl⟩

lemma panel?_of_reach {panel : Panel} {memory : σ} {u : Wizard σ}
    (h : reach T i w = ⟨.ok (panel, memory), u, js⟩) : u.panel? i = some panel := by
  have hreached := reached T i w
  rw [h] at hreached
  cases hreached with
  | known hslot =>
    rw [panel?_eq, hslot]
    rfl
  | created hslot =>
    rw [(samePlace_setView i memory w).panel?, panel?_eq, hslot]
    rfl

/-- A panel is left behind with its data just saved, whether it has been validated or not. -/
lemma exists_of_depart {validated : Bool} (h : depart T p validated w = ⟨.ok (), w', js⟩) :
    ∃ panel scene u, u.panel? p = some panel ∧
      w' = enact p (T.hooks.save ⟨panel, T.catalog⟩ scene).state u := by
  cases validated with
  | true =>
    have hturn : turn T .saving p (fun stage => ofStep (T.hooks.save stage)) w = _ := h
    obtain ⟨panel, memory, u, scene, _, _, hreach, hsave, rfl, -⟩ := exists_of_turn hturn
    cases hsave
    exact ⟨panel, _, u, panel?_of_reach hreach, rfl⟩
  | false =>
    obtain ⟨b, v, _, _, hcommit, h, -⟩ := exists_of_bind_ok h
    cases h
    obtain ⟨panel, memory, u, scene, _, _, hreach, hact, rfl, -⟩ := exists_of_turn hcommit
    obtain ⟨scene₁, rfl⟩ := exists_of_commit hact
    exact ⟨panel, scene₁, u, panel?_of_reach hreach, rfl⟩

/-- Only who moves forward has something to contribute. -/
lemma contribute_some (T : Crew σ) (old new : Nat) (validated : Bool) :
    contribute T (some old) new validated =
      if old < new then depart T old validated else pure () := by
  by_cases h : old < new <;> simp [contribute, isForward, h]

lemma exists_of_cross {old? : Option Nat} {validated agreed : Bool}
    (h : cross T old? new validated w = ⟨.ok agreed, w', js⟩) :
    ∃ u v ks ks' ls, contribute T old? new validated w = ⟨.ok (), u, ks⟩ ∧
      refresh u = ⟨.ok (), v, ks'⟩ ∧ conclude T old? new v = ⟨.ok agreed, w', ls⟩ ∧
      js = ks ++ (ks' ++ ls) := by
  obtain ⟨_, u, ks, _, hcontribute, hrest, rfl⟩ := exists_of_bind_ok h
  obtain ⟨_, v, ks', ls, hrefresh, hconclude, rfl⟩ := exists_of_bind_ok hrest
  exact ⟨u, v, ks, ks', ls, hcontribute, hrefresh, hconclude, rfl⟩

/-- How the views change places: the old one objects, or it goes and the new one says whether it
agrees. -/
inductive Exchanged (T : Crew σ) (old new : Nat) (w : Wizard σ) :
    Report Event (Wizard σ) (Except Failure Bool) → Prop
  | kept {w' : Wizard σ} {js : List Event} :
      turn T .leaving old (fun stage => ofStep (T.hooks.deactivate stage)) w = ⟨.ok false, w', js⟩ →
      Exchanged T old new w ⟨.ok false, w', js⟩
  | left {v w' : Wizard σ} {agreed : Bool} {js ks : List Event} :
      turn T .leaving old (fun stage => ofStep (T.hooks.deactivate stage)) w = ⟨.ok true, v, js⟩ →
      turn T .entering new (fun stage => ofStep (T.hooks.activate stage)) v = ⟨.ok agreed, w', ks⟩ →
      Exchanged T old new w ⟨.ok agreed, w', js ++ ks⟩

lemma exchanged {old : Nat} {agreed : Bool}
    (h : exchange T (some old) new w = ⟨.ok agreed, w', js⟩) :
    Exchanged T old new w ⟨.ok agreed, w', js⟩ := by
  obtain ⟨left, v, ks, ls, hleave, h, rfl⟩ := exists_of_bind_ok h
  cases left with
  | false =>
    cases h
    rw [List.append_nil]
    exact .kept hleave
  | true => exact .left hleave h

/-- A move concludes as its views have agreed to change places. -/
lemma exists_of_conclude_ok {old? : Option Nat} {agreed : Bool}
    (h : conclude T old? new w = ⟨.ok agreed, w', js⟩) :
    ∃ v, exchange T old? new w = ⟨.ok agreed, v, js⟩ ∧
      w' = if agreed then arrive old? new v else v := by
  rcases hexchange : exchange T old? new w with ⟨failure | agreed', v, ks⟩
  · rw [conclude_of_failed hexchange] at h
    cases h
  · cases agreed' with
    | true =>
      rw [conclude_of_agreed hexchange] at h
      cases h
      exact ⟨v, rfl, rfl⟩
    | false =>
      rw [conclude_of_vetoed hexchange] at h
      cases h
      exact ⟨_, rfl, rfl⟩

/-! ### The order of things -/

/-- How a move from the panel at `p` forward to that at `new` ends: the view at `p` has just saved
its data when the derived variables are brought up to date; then it lets go, and at last the view at
`new` comes up. -/
inductive HandsOver (T : Crew σ) (p new : Nat) :
    Report Event (Wizard σ) (Except Failure Bool) → Prop
  | intro {panel : Panel} {scene : Scene σ} {u saved refreshed left entered : Wizard σ}
      {before js ks ls : List Event} : u.panel? p = some panel →
      saved = u.enact p (T.hooks.save ⟨panel, T.catalog⟩ scene).state →
      refresh saved = ⟨.ok (), refreshed, js⟩ →
      turn T .leaving p (fun stage => ofStep (T.hooks.deactivate stage)) refreshed =
        ⟨.ok true, left, ks⟩ →
      turn T .entering new (fun stage => ofStep (T.hooks.activate stage)) left =
        ⟨.ok true, entered, ls⟩ →
      HandsOver T p new ⟨.ok true, arrive (some p) new entered, before ++ (js ++ (ks ++ ls))⟩

/-- **A panel that is left forward hands over in order.** -/
lemma handsOver_of_cross {validated : Bool} (hp : p < new)
    (h : cross T (some p) new validated w = ⟨.ok true, w', js⟩) (before : List Event) :
    HandsOver T p new ⟨.ok true, w', before ++ js⟩ := by
  obtain ⟨u, v, ks, ks', ls, hcontribute, hrefresh, hconclude, rfl⟩ := exists_of_cross h
  rw [contribute_some, if_pos hp] at hcontribute
  obtain ⟨panel, scene, u', hpanel, hsaved⟩ := exists_of_depart hcontribute
  obtain ⟨entered, hexchange, rfl⟩ := exists_of_conclude_ok hconclude
  rw [← List.append_assoc before]
  cases exchanged hexchange with
  | left hleave henter => exact .intro hpanel hsaved hrefresh hleave henter

/-- A move that crosses over leads to the panel that it crosses over to. -/
lemma crossing?_of_cross {m : Move} {v : Wizard σ} {validated : Bool} {ks ls : List Event}
    (h : cross T w.index? new validated v = ⟨.ok true, w', ls⟩)
    (hm : m.perform T w = ⟨.ok true, w', ks ++ ls⟩) :
    (Call.move m).crossing? T w = some (w.index?, new) := by
  obtain ⟨u, u', _, _, _, _, _, hconclude, -⟩ := exists_of_cross h
  obtain ⟨x, -, rfl⟩ := exists_of_conclude_ok hconclude
  rw [Call.crossing?, hm]
  rfl

lemma crossing?_of_unsuccessful {m : Move} (h : (m.perform T w).result ≠ .ok true) :
    (Call.move m).crossing? T w = none := by
  rw [Call.crossing?]
  rcases hm : m.perform T w with ⟨failure | moved, w', js⟩
  · rfl
  · cases moved with
    | true => exact absurd (congrArg Report.result hm) h
    | false => rfl

/-- Making views may come before a move crosses over. -/
lemma precedes_making (T : Crew σ) : Precedes T making where
  samePlace h := h.1
  looking := ⟨fun _ _ => making_reach, fun _ _ _ _ => (governs_making T).inquire _ _ _⟩
  validate _ _ := making_turn

/-- **Every move forward hands over in order.** -/
lemma handsOver_of_crossing {m : Move} (h : (Call.move m).crossing? T w = some (some p, new))
    (hp : p < new) : HandsOver T p new (m.perform T w) := by
  have hmoved : (m.perform T w).result = .ok true := by
    by_contra hne
    rw [crossing?_of_unsuccessful hne] at h
    cases h
  have hcrossed := (precedes_making T).perform (w := w) m
  generalize hreport : m.perform T w = report at hcrossed hmoved
  cases hcrossed with
  | refused => cases hmoved
  | failed => cases hmoved
  | @crossed v js new' validated hok =>
    rcases hcross : cross T w.index? new' validated v with ⟨result, w', ls⟩
    rw [hcross] at hmoved hreport
    obtain rfl : result = .ok true := hmoved
    rw [crossing?_of_cross hcross hreport] at h
    obtain ⟨hindex, rfl⟩ := Prod.mk.inj (Option.some.inj h)
    rw [hindex] at hcross
    exact handsOver_of_cross hp hcross js

end Wizard

end SetupWizard
