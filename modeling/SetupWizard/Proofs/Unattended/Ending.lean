/-
# The end of an unattended run

A run that can go no further first sees whether a panel is still offered, and then has the data of
the last panel validated.  The second of these begins with a refresh, so the two are not answered
in one environment.  In the environment in which a run ends, the requirements of the last panel
are met, but that no panel is offered is only certain if the last refresh has changed nothing
about that (`ending_of_run`).
-/
import SetupWizard.Proofs.Refresh
import SetupWizard.Proofs.Unattended.Run

namespace SetupWizard

open Attempt

variable {d : Definition} {R : List PanelRecord} {validate : Bool}

namespace Definition

/-- The verdict on a panel is good exactly if the requirements it refers to are met. -/
lemma verdict_eq_true {env : Environment} {i : Nat} {p : Panel} (hp : d.panels[i]? = some p) :
    d.verdict env i = .ok true ↔
      ∀ id ∈ p.validators, ∃ r, d.requirement? id = some r ∧ r.Met env.store := by
  rw [verdict, hp]
  exact result_runValidators_eq_true

/-- Which panel is offered next is a matter of the conditions and the store. -/
lemma nextOffer?_congr {env env' : Environment} (hconditions : env'.conditions = env.conditions)
    (hstore : env'.store = env.store) (old? : Option Nat) :
    d.nextOffer? env' old? = d.nextOffer? env old? := by
  have htrue : env'.isTrue = env.isTrue := by
    funext id
    rw [Environment.isTrue, Environment.isTrue, hconditions, hstore]
  have hoffers : d.offers env' = d.offers env := by
    funext i
    rw [offers, offers, htrue]
  rw [nextOffer?, nextOffer?, hoffers]

end Definition

namespace Course

variable {answers : String → Texts} {x y z : Course} {js : List Event}

/-- The ways in which the data of the current panel can be approved. -/
inductive Approval (d : Definition) (validate : Bool) (x : Course) : Course → List Event → Prop
  /-- There is nothing to be validated. -/
  | waived : validate = false ∨ x.at? = none → Approval d validate x x []
  /-- The data is valid after a refresh. -/
  | granted {c : Nat} {env : Environment} : validate = true → x.at? = some c →
      x.env.refresh = .ok env → d.verdict env c = .ok true →
      Approval d validate x { x with env } [.turned .validating c x.env]

lemma Approval.trail_eq (h : Approval d validate x y js) : y.trail = x.trail := by
  cases h with
  | waived => rfl
  | granted => rfl

/-- The environment is brought up to date if there is something to be validated. -/
lemma Approval.env_eq (h : Approval d validate x y js) :
    if validate = true ∧ x.at?.isSome then x.env.refresh = .ok y.env else y.env = x.env := by
  cases h with
  | waived hquiet => rcases hquiet with hfalse | hnone <;> simp [*]
  | granted hvalidate hat hrefresh hverdict => simp [*]

/-- With validation, the data of the current panel is not approved without a verdict on it. -/
lemma Approval.of_at {c : Nat} (h : Approval d true x y js) (hc : x.at? = some c) :
    x.env.refresh = .ok y.env ∧ d.verdict y.env c = .ok true ∧
      js = [.turned .validating c x.env] := by
  cases h with
  | waived hquiet =>
    rcases hquiet with hfalse | hnone
    · cases hfalse
    · rw [hnone] at hc
      cases hc
  | granted _ hat hrefresh hverdict =>
    obtain rfl := Option.some.inj (hat.symm.trans hc)
    exact ⟨hrefresh, hverdict, rfl⟩

lemma approval_of_approve (h : approve d validate x = ⟨.ok true, y, js⟩) :
    Approval d validate x y js := by
  cases validate with
  | false =>
    cases h
    exact .waived (.inl rfl)
  | true =>
    have hcheck : check d x = ⟨.ok true, y, js⟩ := h
    cases hat : x.at? with
    | none =>
      rw [check_of_none hat] at hcheck
      cases hcheck
      exact .waived (.inr hat)
    | some c =>
      rw [check_of_some hat] at hcheck
      cases hrefresh : x.env.refresh with
      | error e =>
        rw [hrefresh] at hcheck
        cases hcheck
      | ok env =>
        rw [hrefresh] at hcheck
        simp only [Report.mk.injEq] at hcheck
        obtain ⟨hverdict, rfl, rfl⟩ := hcheck
        exact .granted rfl hat hrefresh hverdict

lemma approval_of_finish (h : finish d validate z = ⟨.ok true, y, js⟩) :
    z.target? d = none ∧ Approval d validate z y js := by
  rw [finish, Attempt.get_bind] at h
  cases htarget : z.target? d with
  | some i =>
    rw [htarget] at h
    cases h
  | none =>
    rw [htarget] at h
    exact ⟨rfl, approval_of_approve h⟩

/-- A run that comes to its end has gone forward to where no panel is offered, and the data there
has been approved. -/
lemma exists_of_proceed (h : proceed d answers validate x = ⟨.ok true, y, js⟩) :
    ∃ k z js₁ js₂,
      advance d answers validate (d.panels.length + 1) x = ⟨.ok k, z, js₁⟩ ∧
      z.target? d = none ∧ Approval d validate z y js₂ ∧ js = js₁ ++ js₂ := by
  obtain ⟨k, z, js₁, js₂, hadvance, hfinish, hjs⟩ := exists_of_bind_ok h
  obtain ⟨hend, happroval⟩ := approval_of_finish hfinish
  exact ⟨k, z, js₁, js₂, hadvance, hend, happroval, hjs⟩

/-- A wizard that follows a course has a panel to move forward to exactly if the course has. -/
lemma Follows.hasNext_eq_false {w : Wizard Texts} (h : Follows d R w x) :
    (Wizard.hasNext (Unattended.toolkit d R) w).result = .ok false ↔ x.target? d = none := by
  rw [(follows_hasNext h).result]
  cases x.target? d <;> simp

end Course

namespace Unattended

open Course

variable {w : Wizard Texts}

lemma exists_of_run (h : run d R validate = .ok w) :
    d.check = .ok () ∧
      ∃ js, proceed (toolkit d R) validate d.wizard = ⟨.ok true, w, js⟩ := by
  rw [run, Definition.build] at h
  cases hcheck : d.check with
  | error defect =>
    rw [hcheck] at h
    cases h
  | ok _ =>
    rw [hcheck] at h
    rcases hproceed : proceed (toolkit d R) validate d.wizard with ⟨failure | finished, v, js⟩
    · simp [hproceed] at h
    · cases finished with
      | false => simp [hproceed] at h
      | true =>
        simp only [hproceed] at h
        cases h
        exact ⟨rfl, js, rfl⟩

/-- What is found out about the wizard of a run that succeeds. -/
lemma exists_of_map_run {β : Type} {f : Wizard Texts → β} {b : β}
    (h : (run d R validate).map f = .ok b) : ∃ w, run d R validate = .ok w ∧ f w = b := by
  cases hrun : run d R validate with
  | error e =>
    rw [hrun] at h
    cases h
  | ok w =>
    rw [hrun] at h
    exact ⟨w, rfl, Except.ok.inj h⟩

/-- **The end of a run.**  Where a run that succeeds has stopped moving there is no panel to move
forward to.  It ends on the same panel, after one more refresh if that panel is validated, and in
the environment in which it ends the requirements of the panel are met.  But there is no panel to
move forward to then if and only if the refresh has not changed which panel is offered; so it is if
the refresh has changed no variable, or if there was none. -/
theorem ending_of_run (h : run d R validate = .ok w) :
    let T := toolkit d R
    let stopped : Wizard Texts :=
      (Wizard.advance T validate (d.panels.length + 1) d.wizard).state
    (Wizard.hasNext T stopped).result = .ok false ∧ w.index? = stopped.index? ∧
      (if validate = true ∧ stopped.index?.isSome then stopped.env.refresh = .ok w.env
        else w.env = stopped.env) ∧
      ((Wizard.hasNext T w).result = .ok false ↔
        d.nextOffer? w.env w.index? = d.nextOffer? stopped.env stopped.index?) ∧
      (w.env.store = stopped.env.store → (Wizard.hasNext T w).result = .ok false) ∧
      (validate = true → ∀ c p, w.index? = some c → d.panels[c]? = some p →
        ∀ id ∈ p.validators, ∃ r, d.requirement? id = some r ∧ r.Met w.env.store) := by
  intro T stopped
  obtain ⟨-, js, hproceed⟩ := exists_of_run h
  -- The wizard is replaced by its course, where it stopped and where it ends.
  have hagrees := follows_proceed validate (follows_start d R)
  rcases hcourse : Course.proceed d (Replay.answersOf R) validate (start d) with ⟨result, y, ks⟩
  rw [hproceed, hcourse] at hagrees
  obtain rfl : Except.ok true = result := hagrees.result
  obtain ⟨k, z, js₁, js₂, hadvance, hend, happroval, -⟩ := exists_of_proceed hcourse
  have hstopped : Follows d R stopped z := by
    have hfollows := (follows_advance validate (d.panels.length + 1) (follows_start d R)).follows
    rwa [hadvance] at hfollows
  have hw : Follows d R w y := hagrees.follows
  have hindex : w.index? = stopped.index? := by
    rw [hw.index, hstopped.index, at?, at?, happroval.trail_eq]
  have hrefreshed : if validate = true ∧ stopped.index?.isSome then
      stopped.env.refresh = .ok w.env else w.env = stopped.env := by
    rw [hw.env, hstopped.env, hstopped.index]
    exact happroval.env_eq
  have hoffer : d.nextOffer? stopped.env stopped.index? = none := by
    rw [hstopped.env, hstopped.index]
    exact hend
  have hnext : (Wizard.hasNext T w).result = .ok false ↔
      d.nextOffer? w.env w.index? = d.nextOffer? stopped.env stopped.index? := by
    rw [hw.hasNext_eq_false, hoffer, hw.env, hw.index]
    exact Iff.rfl
  refine ⟨hstopped.hasNext_eq_false.mpr hend, hindex, hrefreshed, hnext, fun hstore => ?_, ?_⟩
  · have hconditions : w.env.conditions = stopped.env.conditions := by
      split at hrefreshed
      · exact Environment.conditions_of_refresh hrefreshed
      · rw [hrefreshed]
    rw [hnext, hindex]
    exact Definition.nextOffer?_congr hconditions hstore stopped.index?
  · intro hvalidate c p hc hp
    subst hvalidate
    rw [hindex, hstopped.index] at hc
    rw [hw.env]
    exact (Definition.verdict_eq_true hp).mp (happroval.of_at hc).2.1

/-- A definition with two derived variables, the second of which depends on the first, and a panel
that is only shown while the second is `1`. -/
def chainedPanel : Definition where
  conditions := [.equals "chosen" "X" "1", .equals "ready" "Y" "1", .equals "offered" "Z" "1"]
  derivations := [{ name := "Y", expression := "1", condition? := some "chosen" },
    { name := "Z", expression := "1", condition? := some "ready" }]
  requirements := [{ id := "filled", required := ["X"] }]
  panels := [{ id := "A", className := "Input", validators := ["filled"] },
    { id := "B", className := "Text", condition? := some "offered" }]

/-- With the answer `2` the last refresh changes nothing, and the run ends where no panel comes
next. -/
theorem ending_of_chainedPanel :
    let R : List PanelRecord := [⟨"A", .ofList [("X", "2")]⟩]
    ∃ w, run chainedPanel R true = .ok w ∧ w.index? = some 0 ∧
      (Wizard.hasNext (toolkit chainedPanel R) w).result = .ok false ∧
      ∃ r, chainedPanel.requirement? "filled" = some r ∧ r.Met w.env.store := by
  intro R
  have hmap : (run chainedPanel R true).map (fun w =>
      (w.index?, chainedPanel.nextOffer? w.env w.index?)) = .ok (some 0, none) := by
    decide +kernel
  obtain ⟨w, hw, hpair⟩ := exists_of_map_run hmap
  obtain ⟨hindex, hoffer⟩ := Prod.mk.inj hpair
  obtain ⟨-, -, -, hnext, -, hmet⟩ := ending_of_run hw
  refine ⟨w, hw, hindex, hnext.mpr (hoffer.trans ?_), hmet rfl 0 _ hindex rfl "filled" ?_⟩
  · decide +kernel
  · decide +kernel

/-- With the answer `1` the last refresh calls for the second panel, which is not visited. -/
theorem hasNext_of_chainedPanel :
    let R : List PanelRecord := [⟨"A", .ofList [("X", "1")]⟩]
    chainedPanel.check = .ok () ∧ record chainedPanel R true = .ok R ∧
      ∃ w, run chainedPanel R true = .ok w ∧
        (Wizard.hasNext (toolkit chainedPanel R) w).result = .ok true := by
  intro R
  have hmap : (run chainedPanel R true).map (fun w =>
      (Wizard.hasNext (toolkit chainedPanel R) w).result) = .ok (.ok true) := by decide +kernel
  obtain ⟨w, hw, hnext⟩ := exists_of_map_run hmap
  exact ⟨by decide +kernel, by decide +kernel, w, hw, hnext⟩

end Unattended

end SetupWizard
