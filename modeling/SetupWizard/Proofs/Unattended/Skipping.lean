/-
# Runs without validation

A move that skips the validators makes the same refreshes as one that runs them, but it looks for
its target before the first of them and not after.  So a run without validation takes the same
course as one with validation as long as the refreshes do not change which panel is offered next,
and not otherwise (`record_unvalidated_iff`).
-/
import SetupWizard.Proofs.Unattended.Reproduction

namespace SetupWizard

open Attempt

/-- Wherever a panel was validated, the refresh with which this began has left the next panel as
it was. -/
def Settled (d : Definition) (js : List Event) : Prop :=
  ∀ c env env', .turned .validating c env ∈ js → env.refresh = .ok env' →
    d.nextOffer? env' (some c) = d.nextOffer? env (some c)

lemma settled_landmarks {d : Definition} {js : List Event} :
    Settled d (landmarks js) ↔ Settled d js := by
  constructor
  · intro h c env env' hmem
    exact h c env env' (mem_landmarks.mpr ⟨hmem, rfl⟩)
  · intro h c env env' hmem
    exact h c env env' (mem_landmarks.mp hmem).1

namespace Course

variable {d : Definition} {answers : String → Texts} {x y z : Course} {i k : Nat}
  {js : List Event}

lemma settled_nil : Settled d [] := fun _ _ _ h => absurd h List.not_mem_nil

lemma settled_append {js ks : List Event} :
    Settled d (js ++ ks) ↔ Settled d js ∧ Settled d ks := by
  constructor
  · intro h
    exact ⟨fun c env env' hmem => h c env env' (List.mem_append_left ks hmem),
      fun c env env' hmem => h c env env' (List.mem_append_right js hmem)⟩
  · rintro ⟨hjs, hks⟩ c env env' hmem
    rcases List.mem_append.mp hmem with hmem | hmem
    · exact hjs c env env' hmem
    · exact hks c env env' hmem

lemma settled_cons {event : Event} {js : List Event} :
    Settled d (event :: js) ↔ Settled d [event] ∧ Settled d js := by
  rw [← List.singleton_append, settled_append]

lemma settled_entering (i : Nat) (env : Environment) : Settled d [.turned .entering i env] := by
  intro c env₁ env₂ hmem
  cases List.mem_singleton.mp hmem

lemma settled_validating {c : Nat} {env env' : Environment} (h : env.refresh = .ok env') :
    Settled d [.turned .validating c env] ↔
      d.nextOffer? env' (some c) = d.nextOffer? env (some c) := by
  constructor
  · intro hs
    exact hs c env env' (List.mem_singleton_self _) h
  · intro hoffer c₁ env₁ env₂ hmem h₁
    cases List.mem_singleton.mp hmem
    cases h.symm.trans h₁
    exact hoffer

/-! ### Single moves -/

lemma journal_refresh (x : Course) : (refresh x).journal = [] := by
  unfold refresh
  cases x.env.refresh <;> rfl

lemma journal_contribute (validated : Bool) (x : Course) :
    (contribute validated x).journal = [] := by
  rw [contribute, Attempt.get_bind]
  split
  · exact journal_refresh x
  · rfl

/-- Who goes forward to a panel gets there. -/
lemma stride_ok {validated b : Bool}
    (h : stride d answers validated i x = ⟨.ok b, y, js⟩) :
    b = true ∧ y.trail = x.trail ++ [i] ∧ ∃ env, js = [.turned .entering i env] := by
  obtain ⟨_, x₁, js₁, ks₁, hcontribute, hrest, rfl⟩ := exists_of_bind_ok h
  obtain ⟨_, x₂, js₂, ks₂, hrefresh, henter, rfl⟩ := exists_of_bind_ok hrest
  have htrail₁ := trail_contribute validated x
  have htrail₂ := trail_refresh x₁
  have hjs₁ := journal_contribute validated x
  have hjs₂ := journal_refresh x₁
  rw [hcontribute] at htrail₁ hjs₁
  rw [hrefresh] at htrail₂ hjs₂
  rw [enter_apply] at henter
  cases henter
  refine ⟨rfl, ?_, x₂.env, ?_⟩
  · show x₂.trail ++ [i] = x.trail ++ [i]
    rw [show x₂.trail = x₁.trail from htrail₂, show x₁.trail = x.trail from htrail₁]
  · rw [show js₁ = [] from hjs₁, show js₂ = [] from hjs₂, List.nil_append, List.nil_append]

/-- A move without objections is a step forward. -/
lemma next_of_approved {validate : Bool}
    (h : approve d validate x = ⟨.ok true, x, []⟩) :
    next d answers validate x = stepForward d answers validate x := by
  rw [next, bind_of_ok h]
  rfl

lemma approve_of_none (validate : Bool) (h : x.at? = none) :
    approve d validate x = ⟨.ok true, x, []⟩ := by
  cases validate with
  | true => exact check_of_none h
  | false => rfl

/-- Before the first panel is entered there is nothing to validate. -/
lemma next_of_none (h : x.at? = none) :
    next d answers true x = next d answers false x := by
  have hquiet (validated : Bool) : contribute validated x = ⟨.ok (), x, []⟩ := by
    rw [contribute, Attempt.get_bind, h]
    rfl
  rw [next_of_approved (approve_of_none true h), next_of_approved (approve_of_none false h),
    stepForward, stepForward, Attempt.get_bind, Attempt.get_bind]
  cases x.target? d with
  | none => rfl
  | some i =>
    show stride d answers true i x = stride d answers false i x
    rw [stride, stride, bind_of_ok (hquiet true), bind_of_ok (hquiet false)]

/-- The move to the first panel validates nothing. -/
lemma settled_of_next_of_none {b : Bool} (hat : x.at? = none)
    (h : next d answers true x = ⟨.ok b, y, js⟩) : Settled d js := by
  rw [next_of_approved (approve_of_none true hat), stepForward, Attempt.get_bind] at h
  cases htarget : x.target? d with
  | none =>
    rw [htarget] at h
    cases h
    exact settled_nil
  | some i =>
    rw [htarget] at h
    obtain ⟨-, -, env, rfl⟩ := stride_ok h
    exact settled_entering i env

/-- To commit the data of a panel instead of validating it comes to the same. -/
lemma stride_unvalidated {c : Nat} {env : Environment} (hat : x.at? = some c)
    (h : x.env.refresh = .ok env) :
    stride d answers false i x = stride d answers true i { x with env := env } := by
  have hcommit : contribute false x = ⟨.ok (), { x with env := env }, []⟩ := by
    rw [contribute, Attempt.get_bind, hat]
    exact refresh_of_ok h
  have hsaved : contribute true { x with env := env } = ⟨.ok (), { x with env := env }, []⟩ := by
    have hat' : ({ x with env := env } : Course).at? = some c := hat
    rw [contribute, Attempt.get_bind, hat']
    rfl
  rw [stride, stride, bind_of_ok hcommit, bind_of_ok hsaved]

/-- The ways in which a validated move from a panel can end without failing. -/
inductive Approved (d : Definition) (answers : String → Texts) (x : Course) (c : Nat)
    (env : Environment) : Report Event Course (Except Failure Bool) → Prop
  /-- The validators object, or no panel is offered. -/
  | stayed : Approved d answers x c env
      ⟨.ok false, { x with env := env }, [.turned .validating c x.env]⟩
  /-- The panel that is offered after the refresh is entered. -/
  | moved {i : Nat} {y : Course} {ks : List Event} : d.nextOffer? env (some c) = some i →
      stride d answers true i { x with env := env } = ⟨.ok true, y, ks⟩ →
      Approved d answers x c env ⟨.ok true, y, .turned .validating c x.env :: ks⟩

lemma approved_of_next {c : Nat} {b : Bool} (hat : x.at? = some c)
    (h : next d answers true x = ⟨.ok b, y, js⟩) :
    ∃ env, x.env.refresh = .ok env ∧ Approved d answers x c env ⟨.ok b, y, js⟩ := by
  obtain ⟨approved, x₁, js₁, ks, hcheck, hrest, rfl⟩ := exists_of_bind_ok h
  rw [show approve d true = check d from rfl, check_of_some hat] at hcheck
  cases hrefresh : x.env.refresh with
  | error e =>
    rw [hrefresh] at hcheck
    cases hcheck
  | ok env =>
    rw [hrefresh] at hcheck
    simp only [Report.mk.injEq] at hcheck
    obtain ⟨-, rfl, rfl⟩ := hcheck
    refine ⟨env, rfl, ?_⟩
    cases approved with
    | false =>
      cases hrest
      exact .stayed
    | true =>
      have htarget : ({ x with env := env } : Course).target? d = d.nextOffer? env (some c) := by
        rw [← hat]
        rfl
      simp only [if_true] at hrest
      rw [stepForward, Attempt.get_bind, htarget] at hrest
      cases hoffer : d.nextOffer? env (some c) with
      | none =>
        rw [hoffer] at hrest
        cases hrest
        exact .stayed
      | some i =>
        rw [hoffer] at hrest
        have hb : b = true := (stride_ok hrest).1
        subst hb
        exact .moved hoffer hrest

/-- A move without validation goes to the panel that is offered at once. -/
lemma next_unvalidated {c : Nat} {env : Environment} (hat : x.at? = some c)
    (h : x.env.refresh = .ok env) :
    next d answers false x =
      match d.nextOffer? x.env (some c) with
      | some i => stride d answers true i { x with env := env }
      | none => ⟨.ok false, x, []⟩ := by
  have htarget : x.target? d = d.nextOffer? x.env (some c) := by
    rw [← hat]
    rfl
  rw [next_of_approved rfl, stepForward, Attempt.get_bind, htarget]
  cases d.nextOffer? x.env (some c) with
  | none => rfl
  | some i => exact stride_unvalidated hat h

/-- A move that succeeds enters one panel, and any other move enters none. -/
lemma trail_next {validate b : Bool} (h : next d answers validate x = ⟨.ok b, y, js⟩) :
    (b = true ∧ ∃ i, y.trail = x.trail ++ [i]) ∨ (b = false ∧ y.trail = x.trail) := by
  obtain ⟨approved, x₁, js₁, ks, happrove, hrest, -⟩ := exists_of_bind_ok h
  have htrail := trail_approve (d := d) validate x
  rw [happrove] at htrail
  rw [← show x₁.trail = x.trail from htrail]
  cases approved with
  | false =>
    cases hrest
    exact .inr ⟨rfl, rfl⟩
  | true =>
    simp only [if_true] at hrest
    rw [stepForward, Attempt.get_bind] at hrest
    cases htarget : x₁.target? d with
    | none =>
      rw [htarget] at hrest
      cases hrest
      exact .inr ⟨rfl, rfl⟩
    | some i =>
      rw [htarget] at hrest
      obtain ⟨hb, hy, -⟩ := stride_ok hrest
      exact .inl ⟨hb, i, hy⟩

/-! ### Two moves from the same place -/

/-- If the refresh leaves the next panel as it was, a move without validation does the same as
a move with validation that succeeds. -/
lemma next_unvalidated_of_moved (h : next d answers true x = ⟨.ok true, y, js⟩)
    (hs : Settled d js) : ∃ js₀, next d answers false x = ⟨.ok true, y, js₀⟩ := by
  cases hat : x.at? with
  | none => exact ⟨js, (next_of_none hat).symm.trans h⟩
  | some c =>
    obtain ⟨env, hrefresh, happroved⟩ := approved_of_next hat h
    cases happroved with
    | @moved i _ ks hoffer hstride =>
      have hsame := (settled_validating hrefresh).mp (settled_cons.mp hs).1
      refine ⟨ks, ?_⟩
      rw [next_unvalidated hat hrefresh, ← hsame, hoffer]
      exact hstride

/-- The same for a move at the end of a run. -/
lemma next_unvalidated_of_stayed (h : next d answers true x = ⟨.ok false, y, js⟩)
    (hend : y.target? d = none) (hs : Settled d js) :
    ∃ y₀ js₀, next d answers false x = ⟨.ok false, y₀, js₀⟩ ∧ y₀.trail = y.trail ∧
      y₀.target? d = none := by
  cases hat : x.at? with
  | none => exact ⟨y, js, (next_of_none hat).symm.trans h, rfl, hend⟩
  | some c =>
    obtain ⟨env, hrefresh, happroved⟩ := approved_of_next hat h
    cases happroved with
    | stayed =>
      have hsame := (settled_validating hrefresh).mp hs
      have hoffer : d.nextOffer? x.env (some c) = none := by
        rw [← hsame, ← hat]
        exact hend
      refine ⟨x, [], ?_, rfl, ?_⟩
      · rw [next_unvalidated hat hrefresh, hoffer]
      · rw [target?, hat]
        exact hoffer

/-- Moves with and without validation that enter the same panel do the same, and the refresh has
left the next panel as it was. -/
lemma settled_of_moved {y₀ : Course} {js₀ : List Event}
    (h : next d answers true x = ⟨.ok true, y, js⟩)
    (h₀ : next d answers false x = ⟨.ok true, y₀, js₀⟩) (htrail : y₀.trail = y.trail) :
    Settled d js ∧ y₀ = y := by
  cases hat : x.at? with
  | none =>
    rw [← next_of_none hat, h] at h₀
    cases h₀
    exact ⟨settled_of_next_of_none hat h, rfl⟩
  | some c =>
    obtain ⟨env, hrefresh, happroved⟩ := approved_of_next hat h
    rw [next_unvalidated hat hrefresh] at h₀
    cases happroved with
    | @moved i _ ks hoffer hstride =>
      cases hoffer₀ : d.nextOffer? x.env (some c) with
      | none =>
        rw [hoffer₀] at h₀
        cases h₀
      | some i₀ =>
        rw [hoffer₀] at h₀
        obtain ⟨-, hy, env', rfl⟩ := stride_ok hstride
        obtain ⟨-, hy₀, -⟩ := stride_ok h₀
        have hi : i₀ = i := by
          rw [hy, hy₀] at htrail
          exact List.singleton_inj.mp (List.append_cancel_left htrail)
        subst hi
        have hreports := h₀.symm.trans hstride
        simp only [Report.mk.injEq] at hreports
        refine ⟨settled_cons.mpr ⟨?_, settled_entering i₀ env'⟩, hreports.2.1⟩
        exact (settled_validating hrefresh).mpr (hoffer.trans hoffer₀.symm)

/-- At the end of both runs the refresh has left it so that no panel is offered. -/
lemma settled_of_stayed {y₀ : Course} {js₀ : List Event}
    (h : next d answers true x = ⟨.ok false, y, js⟩) (hend : y.target? d = none)
    (h₀ : next d answers false x = ⟨.ok false, y₀, js₀⟩) : Settled d js := by
  cases hat : x.at? with
  | none => exact settled_of_next_of_none hat h
  | some c =>
    obtain ⟨env, hrefresh, happroved⟩ := approved_of_next hat h
    rw [next_unvalidated hat hrefresh] at h₀
    cases happroved with
    | stayed =>
      refine (settled_validating hrefresh).mpr ?_
      have hoffer : d.nextOffer? env (some c) = none := by
        rw [← hat]
        exact hend
      cases hoffer₀ : d.nextOffer? x.env (some c) with
      | none => exact hoffer
      | some i =>
        rw [hoffer₀] at h₀
        exact absurd (stride_ok h₀).1 Bool.false_ne_true

/-! ### Whole runs -/

lemma advance_of_stayed {validate : Bool} (limit : Nat)
    (h : next d answers validate x = ⟨.ok false, z, js⟩) :
    advance d answers validate (limit + 1) x = ⟨.ok 0, z, js⟩ := by
  rw [advance, bind_of_ok h]
  show (⟨_, _, js ++ []⟩ : Report Event Course (Except Failure Nat)) = _
  rw [List.append_nil]
  rfl

lemma advance_of_moved {validate : Bool} {limit : Nat} {ks : List Event}
    (h : next d answers validate x = ⟨.ok true, y, js⟩)
    (hrest : advance d answers validate limit y = ⟨.ok k, z, ks⟩) :
    advance d answers validate (limit + 1) x = ⟨.ok (k + 1), z, js ++ ks⟩ := by
  rw [advance, bind_of_ok h, if_pos rfl, bind_pure_apply, hrest]
  rfl

/-- The ways in which moves, one after the other, can end without failing. -/
lemma advance_cases {validate : Bool} {limit : Nat}
    (h : advance d answers validate (limit + 1) x = ⟨.ok k, z, js⟩) :
    (next d answers validate x = ⟨.ok false, z, js⟩ ∧ k = 0) ∨
      ∃ y js₁ js₂ moves, next d answers validate x = ⟨.ok true, y, js₁⟩ ∧
        advance d answers validate limit y = ⟨.ok moves, z, js₂⟩ ∧ k = moves + 1 ∧
        js = js₁ ++ js₂ := by
  obtain ⟨moved, y, js₁, js₂, hnext, hrest, rfl⟩ := exists_of_bind_ok h
  cases moved with
  | false =>
    cases hrest
    rw [List.append_nil]
    exact .inl ⟨hnext, rfl⟩
  | true =>
    rw [if_pos rfl, bind_pure_apply] at hrest
    rcases hadvance : advance d answers validate limit y with ⟨failure | moves, z', ks⟩
    · rw [hadvance] at hrest
      cases hrest
    · rw [hadvance] at hrest
      cases hrest
      exact .inr ⟨y, js₁, _, moves, hnext, hadvance, rfl, rfl⟩

lemma prefix_of_advance {validate : Bool} {limit : Nat}
    (h : advance d answers validate limit x = ⟨.ok k, z, js⟩) : x.trail <+: z.trail := by
  have hpre : x.trail <+: (advance d answers validate limit x).state.trail :=
    (attuned_advance validate limit answers x).1
  rw [h] at hpre
  exact hpre

lemma trail_of_stayed {validate : Bool} (h : next d answers validate x = ⟨.ok false, y, js⟩) :
    y.trail = x.trail := by
  rcases trail_next h with ⟨hb, -⟩ | ⟨-, htrail⟩
  · cases hb
  · exact htrail

lemma length_trail_of_moved {validate : Bool} (h : next d answers validate x = ⟨.ok true, y, js⟩) :
    y.trail.length = x.trail.length + 1 := by
  rcases trail_next h with ⟨-, i, htrail⟩ | ⟨hb, -⟩
  · rw [htrail, List.length_append, List.length_singleton]
  · cases hb

/-- **If the refreshes leave the next panels as they were, a run without validation enters the
same panels** as one with validation. -/
lemma advance_unvalidated {limit : Nat}
    (h : advance d answers true limit x = ⟨.ok k, z, js⟩) (hend : z.target? d = none)
    (hs : Settled d js) :
    ∃ z₀ js₀, advance d answers false limit x = ⟨.ok k, z₀, js₀⟩ ∧
      z₀.trail = z.trail ∧ z₀.target? d = none := by
  induction limit generalizing x k js with
  | zero =>
    cases h
    exact ⟨_, [], rfl, rfl, hend⟩
  | succ limit ih =>
    obtain ⟨hnext, rfl⟩ | ⟨y, js₁, js₂, moves, hnext, hrest, rfl, rfl⟩ := advance_cases h
    · obtain ⟨z₀, js₀, hskip, htrail, hend₀⟩ := next_unvalidated_of_stayed hnext hend hs
      exact ⟨z₀, js₀, advance_of_stayed limit hskip, htrail, hend₀⟩
    · obtain ⟨hs₁, hs₂⟩ := settled_append.mp hs
      obtain ⟨ks₁, hskip⟩ := next_unvalidated_of_moved hnext hs₁
      obtain ⟨z₀, ks₂, hrest₀, htrail, hend₀⟩ := ih hrest hs₂
      exact ⟨z₀, ks₁ ++ ks₂, advance_of_moved hskip hrest₀, htrail, hend₀⟩

/-- **Only then does it enter the same panels.** -/
lemma settled_of_advance {limit k₀ : Nat} {z₀ : Course} {js₀ : List Event}
    (h : advance d answers true limit x = ⟨.ok k, z, js⟩) (hend : z.target? d = none)
    (h₀ : advance d answers false limit x = ⟨.ok k₀, z₀, js₀⟩) (htrail : z₀.trail = z.trail) :
    Settled d js := by
  induction limit generalizing x k js k₀ js₀ with
  | zero =>
    cases h
    exact settled_nil
  | succ limit ih =>
    obtain ⟨hnext, -⟩ | ⟨y, js₁, js₂, moves, hnext, hrest, -, rfl⟩ := advance_cases h <;>
      obtain ⟨hnext₀, -⟩ | ⟨y₀, ks₁, ks₂, moves₀, hnext₀, hrest₀, -, rfl⟩ := advance_cases h₀
    · exact settled_of_stayed hnext hend hnext₀
    · -- Only the run without validation goes on: its trail becomes longer.
      have hlength := length_trail_of_moved hnext₀
      have hle := (prefix_of_advance hrest₀).length_le
      rw [htrail, trail_of_stayed hnext] at hle
      omega
    · -- Only the run with validation goes on.
      have hlength := length_trail_of_moved hnext
      have hle := (prefix_of_advance hrest).length_le
      rw [← htrail, trail_of_stayed hnext₀] at hle
      omega
    · have hlength : y₀.trail.length = y.trail.length :=
        (length_trail_of_moved hnext₀).trans (length_trail_of_moved hnext).symm
      have hpre : y₀.trail <+: z.trail := htrail ▸ prefix_of_advance hrest₀
      have hsame : y₀.trail = y.trail :=
        (List.prefix_of_prefix_length_le hpre (prefix_of_advance hrest)
          (Nat.le_of_eq hlength)).eq_of_length hlength
      obtain ⟨hs₁, rfl⟩ := settled_of_moved hnext hnext₀ hsame
      exact settled_append.mpr ⟨hs₁, ih hrest hrest₀⟩

/-! ### The end of a run -/

lemma finish_ok {validate : Bool} (h : finish d validate x = ⟨.ok true, y, js⟩) :
    x.target? d = none ∧ y.trail = x.trail := by
  rw [finish, Attempt.get_bind] at h
  cases htarget : x.target? d with
  | some i =>
    rw [htarget] at h
    cases h
  | none =>
    rw [htarget] at h
    have htrail := trail_approve (d := d) validate x
    have happrove : approve d validate x = ⟨.ok true, y, js⟩ := h
    rw [happrove] at htrail
    exact ⟨rfl, htrail⟩

/-- The moves of a run that comes to its end. -/
lemma proceed_ok {validate : Bool} (h : (proceed d answers validate x).result = .ok true) :
    ∃ k z js, advance d answers validate (d.panels.length + 1) x = ⟨.ok k, z, js⟩ ∧
      z.target? d = none ∧ (proceed d answers validate x).state.trail = z.trail := by
  rcases hproceed : proceed d answers validate x with ⟨result, f, ls⟩
  rw [hproceed] at h
  obtain rfl : result = .ok true := h
  obtain ⟨k, z, js, ks, hadvance, hfinish, -⟩ := exists_of_bind_ok hproceed
  obtain ⟨hend, htrail⟩ := finish_ok hfinish
  exact ⟨k, z, js, hadvance, hend, htrail⟩

/-- A run without validation that can go no further has come to its end. -/
lemma proceed_unvalidated (h : advance d answers false (d.panels.length + 1) x = ⟨.ok k, z, js⟩)
    (hend : z.target? d = none) : proceed d answers false x = ⟨.ok true, z, js⟩ := by
  have hfinish : finish d false z = ⟨.ok true, z, []⟩ := by
    rw [finish, Attempt.get_bind, hend]
    rfl
  rw [proceed, bind_of_ok h, hfinish, List.append_nil]

end Course

namespace Unattended

open Course

variable {d : Definition} {R written : List PanelRecord}

/-- The journal of the moves of a run. -/
def moves (d : Definition) (R : List PanelRecord) (validate : Bool) : List Event :=
  (Wizard.advance (toolkit d R).toCrew validate (d.panels.length + 1) d.wizard).journal

/-- The moves of a run and of its course say the same about the refreshes. -/
lemma settled_moves {validate : Bool} :
    Settled d (moves d R validate) ↔
      Settled d
        (advance d (Replay.answersOf R) validate (d.panels.length + 1) (start d)).journal := by
  rw [← (follows_advance validate (d.panels.length + 1) (follows_start d R)).journal,
    settled_landmarks]
  rfl

/-- **Skipping validation.**  Let a run with validation write a record.  The run without
validation visits the same panels and writes the same record if and only if no refresh with which
a validation began has changed which panel was offered next. -/
theorem record_unvalidated_iff (hunvisited : ∀ p ∈ d.panels, p.visited = false)
    (h : record d R true = .ok written) :
    record d R false = .ok written ↔ Settled d (moves d R true) := by
  obtain ⟨hd, hresult, rfl⟩ := record_eq_ok_iff.mp h
  obtain ⟨k, z, js, hadvance, hend, htrail⟩ := proceed_ok hresult
  have hascends : Ascends d (course d R true).state := ascends_proceed d _ true
  rw [settled_moves, hadvance]
  constructor
  · intro hfalse
    obtain ⟨-, hresult₀, hrecord⟩ := record_eq_ok_iff.mp hfalse
    obtain ⟨k₀, z₀, js₀, hadvance₀, -, htrail₀⟩ := proceed_ok hresult₀
    have hsame := trail_eq_of_panels hd hunvisited hascends (ascends_proceed d _ false)
      (congrArg (List.map PanelRecord.panel) hrecord)
    exact settled_of_advance hadvance hend hadvance₀ (htrail₀.symm.trans (hsame.trans htrail))
  · intro hs
    obtain ⟨z₀, js₀, hadvance₀, htrail₀, hend₀⟩ := advance_unvalidated hadvance hend hs
    have hcourse : course d R false = ⟨.ok true, z₀, js₀⟩ := proceed_unvalidated hadvance₀ hend₀
    have hkeeps : Keeps d (Replay.answersOf R) (course d R false).state := keeps_proceed d _ false
    refine record_eq_ok_iff.mpr ⟨hd, by rw [hcourse], ?_⟩
    rw [hcourse] at hkeeps ⊢
    exact record_eq_of_keeps hunvisited hascends (keeps_proceed d _ true) hkeeps
      (htrail₀.trans htrail.symm)

/-- Without derived variables there is nothing that a refresh could change. -/
theorem record_unvalidated_of_conditionalPanel :
    let R : List PanelRecord :=
      [⟨"a", .ofList [("X", "1")]⟩, ⟨"m", ∅⟩, ⟨"b", .ofList [("X", "1")]⟩]
    (∀ p ∈ conditionalPanel.panels, p.visited = false) ∧
      record conditionalPanel R true = .ok R ∧
      Settled conditionalPanel (moves conditionalPanel R true) := by
  intro R
  have hunvisited : ∀ p ∈ conditionalPanel.panels, p.visited = false := by decide
  have hR : record conditionalPanel R true = .ok R := by decide +kernel
  have hskip : record conditionalPanel R false = .ok R := by decide +kernel
  exact ⟨hunvisited, hR, (record_unvalidated_iff hunvisited hR).mp hskip⟩

/-- A definition whose second panel is only shown while a derived variable `Y` is `1`, which it
becomes when the first panel has given the value `1` to the variable `X`. -/
def derivedPanel : Definition where
  conditions := [.equals "chosen" "X" "1", .equals "offered" "Y" "1"]
  derivations := [{ name := "Y", expression := "1", condition? := some "chosen" }]
  panels := [{ id := "A", className := "Input" },
    { id := "B", className := "Text", condition? := some "offered" },
    { id := "C", className := "Input" }]

/-- With validation the second panel of this definition is shown, and without it is not. -/
theorem record_unvalidated_ne :
    let R : List PanelRecord := [⟨"A", .ofList [("X", "1")]⟩]
    derivedPanel.check = .ok () ∧
      record derivedPanel R true =
        .ok [⟨"A", .ofList [("X", "1")]⟩, ⟨"B", ∅⟩, ⟨"C", ∅⟩] ∧
      record derivedPanel R false = .ok [⟨"A", .ofList [("X", "1")]⟩, ⟨"C", ∅⟩] := by
  decide +kernel

end Unattended

end SetupWizard
