/-
# Laws that govern courses

The small steps of a course are: refreshing, validating the current panel, and entering a panel
behind it.  A law that these steps obey is obeyed by the whole run (`Governs.proceed`).

The first such law is that a course goes forward: the panels that have been entered are panels of
the definition, in their order (`ascends_proceed`).
-/
import SetupWizard.Proofs.Law
import SetupWizard.Proofs.Unattended.Course

namespace SetupWizard.Course

open Attempt

variable {d : Definition} {answers : String → Texts} {L : Law Event Course} {x : Course}

/-! ### The panel to be entered next -/

lemma lt_length_of_mem_positionsAfter {old? : Option Nat} {i : Nat}
    (h : i ∈ d.positionsAfter old?) : i < d.panels.length := by
  cases old? with
  | none => exact List.mem_range.mp h
  | some old => exact List.mem_range.mp (List.mem_of_mem_drop h)

lemma lt_of_mem_positionsAfter {old i : Nat} (h : i ∈ d.positionsAfter (some old)) : old < i := by
  have hdrop : i ∈ (List.range d.panels.length).drop (old + 1) := h
  obtain ⟨k, hk, rfl⟩ := List.getElem_of_mem hdrop
  rw [List.getElem_drop, List.getElem_range]
  omega

lemma mem_positionsAfter_of_target {i : Nat} (h : x.target? d = some i) :
    i ∈ d.positionsAfter x.at? :=
  List.mem_of_find?_eq_some h

/-! ### What the small steps do -/

lemma refresh_of_ok {env : Environment} (h : x.env.refresh = .ok env) :
    refresh x = ⟨.ok (), { x with env := env }, []⟩ := by
  rw [refresh, h]

lemma refresh_of_error {e : RefreshError} (h : x.env.refresh = .error e) :
    refresh x = ⟨.error (.refresh e), x, []⟩ := by
  rw [refresh, h]

lemma check_of_none (h : x.at? = none) : check d x = ⟨.ok true, x, []⟩ := by
  rw [check, Attempt.get_bind, h]
  rfl

/-- Before the first panel is entered nothing is validated; later the validators are asked in the
refreshed environment. -/
lemma check_of_some {i : Nat} (h : x.at? = some i) :
    check d x = match x.env.refresh with
      | .ok env => ⟨d.verdict env i, { x with env := env }, [.turned .validating i x.env]⟩
      | .error e => ⟨.error (.refresh e), x, [.turned .validating i x.env]⟩ := by
  have hwrite : (Attempt.write (.turned .validating i x.env) : Attempt Event Course Unit) x =
      ⟨.ok (), x, [.turned .validating i x.env]⟩ := rfl
  rw [check, Attempt.get_bind, h]
  refine (bind_of_ok hwrite _).trans ?_
  cases hrefresh : x.env.refresh with
  | ok env =>
    rw [bind_of_ok (refresh_of_ok hrefresh)]
    rfl
  | error e =>
    rw [bind_of_error (refresh_of_error hrefresh)]
    rfl

lemma enter_apply (i : Nat) (x : Course) :
    enter d answers i x = ⟨.ok true,
      { trail := x.trail ++ [i], env := d.supply answers i x.env },
      [.turned .entering i x.env]⟩ := rfl

lemma trail_refresh (x : Course) : (refresh x).state.trail = x.trail := by
  unfold refresh
  cases x.env.refresh <;> rfl

/-- What a course does for the panel that is left does not move it. -/
lemma trail_contribute (validated : Bool) (x : Course) :
    (contribute validated x).state.trail = x.trail := by
  rw [contribute, Attempt.get_bind]
  split
  · exact trail_refresh x
  · rfl

/-- Validating the current panel moves nothing. -/
lemma trail_check (x : Course) : (check d x).state.trail = x.trail := by
  cases hat : x.at? with
  | none => rw [check_of_none hat]
  | some i =>
    rw [check_of_some hat]
    cases x.env.refresh <;> rfl

lemma trail_approve (validate : Bool) (x : Course) :
    (approve d validate x).state.trail = x.trail := by
  cases validate with
  | true => exact trail_check x
  | false => rfl

/-! ### Governing laws -/

/-- The small steps of the courses of a definition obey a law. -/
structure Governs (d : Definition) (answers : String → Texts) (L : Law Event Course) : Prop where
  refresh (x : Course) : refresh.Obeys L x
  validate (i : Nat) (x : Course) :
    (Attempt.write (.turned .validating i x.env) : Attempt Event Course Unit).Obeys L x
  judge (i : Nat) (x : Course) : (judge d i).Obeys L x
  enter {i : Nat} {x : Course} : i ∈ d.positionsAfter x.at? → (enter d answers i).Obeys L x

namespace Governs

variable (h : Governs d answers L)
include h

lemma check (x : Course) : (check d).Obeys L x := by
  refine .get_bind ?_
  cases x.at? with
  | none => exact .pure true x
  | some i =>
    exact .bind (h.validate i x) fun _ y _ _ _ =>
      .bind (h.refresh y) fun _ z _ _ _ => h.judge i z

lemma approve (validate : Bool) (x : Course) : (approve d validate).Obeys L x := by
  cases validate with
  | true => exact h.check x
  | false => exact .pure true x

lemma contribute (validated : Bool) (x : Course) : (contribute validated).Obeys L x := by
  refine .get_bind ?_
  split
  · exact h.refresh x
  · exact .pure () x

/-- Going forward to a panel behind the current one. -/
lemma stride (validated : Bool) {i : Nat} (hi : i ∈ d.positionsAfter x.at?) :
    (stride d answers validated i).Obeys L x := by
  refine .bind (h.contribute validated x) fun _ y _ hy _ => ?_
  refine .bind (h.refresh y) fun _ z _ hz _ => h.enter ?_
  -- The panel is still behind the current one, as nothing has been entered on the way.
  have hyx : y.trail = x.trail := (congrArg (·.state.trail) hy).symm.trans (trail_contribute _ x)
  have hzy : z.trail = y.trail := (congrArg (·.state.trail) hz).symm.trans (trail_refresh y)
  rw [at?, hzy, hyx]
  exact hi

lemma stepForward (validated : Bool) (x : Course) :
    (stepForward d answers validated).Obeys L x := by
  refine .get_bind ?_
  cases htarget : x.target? d with
  | none => exact .pure false x
  | some i => exact h.stride validated (mem_positionsAfter_of_target htarget)

lemma next (validate : Bool) (x : Course) : (next d answers validate).Obeys L x := by
  refine .bind (h.approve validate x) fun approved y _ _ _ => ?_
  cases approved with
  | true => exact h.stepForward validate y
  | false => exact .pure false y

lemma advance (validate : Bool) (limit : Nat) (x : Course) :
    (advance d answers validate limit).Obeys L x := by
  induction limit generalizing x with
  | zero => exact .pure 0 x
  | succ limit ih =>
    refine .bind (h.next validate x) fun moved y _ _ _ => ?_
    cases moved with
    | true => exact .map _ (ih y)
    | false => exact .pure 0 y

lemma finish (validate : Bool) (x : Course) : (finish d validate).Obeys L x := by
  refine .get_bind ?_
  split
  · exact .pure false x
  · exact h.approve validate x

/-- **A run obeys what its small steps obey.** -/
lemma proceed (validate : Bool) (x : Course) : (proceed d answers validate).Obeys L x :=
  .bind (h.advance validate _ x) fun _ y _ _ _ => h.finish validate y

end Governs

/-! ### Going forward -/

/-- The panels that have been entered are panels of the definition, in their order. -/
structure Ascends (d : Definition) (x : Course) : Prop where
  sorted : x.trail.Pairwise (· < ·)
  bounded : ∀ i ∈ x.trail, i < d.panels.length

lemma Ascends.of_trail {y : Course} (h : Ascends d x) (htrail : y.trail = x.trail) :
    Ascends d y :=
  ⟨htrail ▸ h.sorted, htrail ▸ h.bounded⟩

/-- No panel has been entered behind the current one. -/
lemma Ascends.le_at (h : Ascends d x) {c j : Nat} (hc : x.at? = some c) (hj : j ∈ x.trail) :
    j ≤ c := by
  obtain ⟨init, hinit⟩ := List.getLast?_eq_some_iff.mp hc
  have hsorted := h.sorted
  rw [hinit] at hj hsorted
  rcases List.mem_append.mp hj with hj | hj
  · have hlt := (List.pairwise_append.mp hsorted).2.2 j hj c (List.mem_singleton_self c)
    exact Nat.le_of_lt hlt
  · exact Nat.le_of_eq (List.mem_singleton.mp hj)

lemma Ascends.enter (h : Ascends d x) {i : Nat} (hi : i ∈ d.positionsAfter x.at?)
    (env : Environment) : Ascends d { trail := x.trail ++ [i], env } := by
  constructor
  · refine List.pairwise_append.mpr ⟨h.sorted, List.pairwise_singleton _ _, ?_⟩
    intro j hj i' hi'
    rw [List.mem_singleton.mp hi']
    obtain ⟨c, hc⟩ : ∃ c, x.at? = some c :=
      ⟨_, List.getLast?_eq_some_getLast (List.ne_nil_of_mem hj)⟩
    rw [hc] at hi
    exact Nat.lt_of_le_of_lt (h.le_at hc hj) (lt_of_mem_positionsAfter hi)
  · intro j hj
    rcases List.mem_append.mp hj with hj | hj
    · exact h.bounded j hj
    · rw [List.mem_singleton.mp hj]
      exact lt_length_of_mem_positionsAfter hi

lemma governs_ascends (d : Definition) (answers : String → Texts) :
    Governs d answers (.keeping (Ascends d)) where
  refresh x := by
    unfold Obeys refresh
    cases x.env.refresh <;> exact fun h => h.of_trail rfl
  validate i x := (id : Ascends d x → Ascends d x)
  judge i x := by
    unfold Obeys judge
    cases d.verdict x.env i <;> exact id
  enter hi := fun h => h.enter hi _

/-- **A run goes forward.** -/
theorem ascends_proceed (d : Definition) (answers : String → Texts) (validate : Bool) :
    Ascends d (proceed d answers validate (start d)).state :=
  ((governs_ascends d answers).proceed validate (start d)).keeps
    ⟨List.Pairwise.nil, fun _ h => absurd h List.not_mem_nil⟩

end SetupWizard.Course
