/-
# Answers in unattended runs

The panels that have been entered in a run have put their data into the store, and there it
stays: what the last of them gave is blocked, and no refresh takes it away (`keeps_proceed`).
For the same reason only the answers for the panels that are entered make a difference to a run
(`attuned_proceed`).
-/
import SetupWizard.Proofs.Refresh
import SetupWizard.Proofs.Replay
import SetupWizard.Proofs.Unattended.Forward

namespace SetupWizard

open Attempt

/-- What the panels at some positions, entered one after the other, have given to a variable. -/
def Definition.given? (d : Definition) (answers : String → Texts) (trail : List Nat)
    (n : String) : Option String :=
  trail.reverse.findSome? fun i => (d.dataAt answers i)[n]?

namespace Course

variable {d : Definition} {answers : String → Texts} {x y : Course}

/-! ### What is given is kept -/

lemma given?_append_singleton (trail : List Nat) (i : Nat) (n : String) :
    d.given? answers (trail ++ [i]) n = (d.dataAt answers i)[n]?.or (d.given? answers trail n) := by
  rw [Definition.given?, List.reverse_append, List.reverse_singleton, List.singleton_append,
    List.findSome?_cons]
  cases (d.dataAt answers i)[n]? <;> rfl

lemma dataAt_of_panel {i : Nat} {p : Panel} (hp : d.panels[i]? = some p) :
    d.dataAt answers i = answers p.id := by
  rw [Definition.dataAt, hp]

lemma get?_supply (i : Nat) (env : Environment) (n : String) :
    (d.supply answers i env).store.get? n = (d.dataAt answers i)[n]?.or (env.store.get? n) := by
  unfold Definition.supply Definition.dataAt
  cases d.panels[i]? with
  | none =>
    dsimp only
    rw [Std.ExtTreeMap.getElem?_empty, Option.none_or]
  | some p => exact Replay.get?_give (answers p.id) p.id env.store n

lemma isBlocked_supply (i : Nat) (env : Environment) (n : String) :
    (d.supply answers i env).store.isBlocked n =
      ((d.dataAt answers i).contains n || env.store.isBlocked n) := by
  unfold Definition.supply Definition.dataAt
  cases d.panels[i]? with
  | none => simp
  | some p => exact Replay.isBlocked_give (answers p.id) p.id env.store n

/-- The variables have the values that the entered panels gave them, and are blocked. -/
def Keeps (d : Definition) (answers : String → Texts) (x : Course) : Prop :=
  ∀ n value, d.given? answers x.trail n = some value →
    x.env.store.isBlocked n = true ∧ x.env.store.get? n = some value

lemma Keeps.of_respects (h : Keeps d answers x) (htrail : y.trail = x.trail)
    (hstore : x.env.store.Respects y.env.store) : Keeps d answers y := by
  intro n value hn
  rw [htrail] at hn
  obtain ⟨hblocked, hvalue⟩ := h n value hn
  exact ⟨(hstore.isBlocked n).trans hblocked, (hstore.get? n hblocked).trans hvalue⟩

/-- A panel that is entered gives its data, which is kept with the rest. -/
lemma Keeps.enter (h : Keeps d answers x) (i : Nat) :
    Keeps d answers { trail := x.trail ++ [i], env := d.supply answers i x.env } := by
  intro n value hn
  rw [given?_append_singleton] at hn
  rw [isBlocked_supply, get?_supply]
  cases hdata : (d.dataAt answers i)[n]? with
  | some new =>
    rw [hdata, Option.some_or] at hn
    rw [Std.ExtTreeMap.contains_eq_isSome_getElem?, hdata]
    exact ⟨rfl, hn⟩
  | none =>
    rw [hdata, Option.none_or] at hn
    obtain ⟨hblocked, hvalue⟩ := h n value hn
    rw [hblocked, Bool.or_true]
    exact ⟨rfl, hvalue⟩

lemma governs_keeps (d : Definition) (answers : String → Texts) :
    Governs d answers (.keeping (Keeps d answers)) where
  refresh x := by
    unfold Obeys refresh
    cases hrefresh : x.env.refresh with
    | error e => exact id
    | ok env => exact fun h => h.of_respects rfl (Environment.respects_of_refresh hrefresh)
  validate i x := (id : Keeps d answers x → Keeps d answers x)
  judge i x := by
    unfold Obeys judge
    cases d.verdict x.env i <;> exact id
  enter _ := fun h => h.enter _

/-- **The answers of the entered panels are kept** through a run. -/
theorem keeps_proceed (d : Definition) (answers : String → Texts) (validate : Bool) :
    Keeps d answers (proceed d answers validate (start d)).state := by
  have hstart : Keeps d answers (start d) := by
    intro n value h
    cases h
  exact ((governs_keeps d answers).proceed validate (start d)).keeps hstart

/-! ### Answers that make no difference -/

/-- What an attempt does depends on the answers for the panels on its trail only. -/
def Attuned {α : Type} (d : Definition) (m : (String → Texts) → Attempt Event Course α) : Prop :=
  ∀ answers x, x.trail <+: (m answers x).state.trail ∧
    ∀ answers', (∀ i ∈ (m answers x).state.trail, d.dataAt answers' i = d.dataAt answers i) →
      m answers' x = m answers x

namespace Attuned

variable {α β : Type}

/-- An attempt that has nothing to do with answers and stays where it is. -/
lemma const {m : Attempt Event Course α} (hm : ∀ x, (m x).state.trail = x.trail) :
    Attuned d fun _ => m := by
  intro answers x
  refine ⟨⟨[], ?_⟩, fun _ _ => rfl⟩
  rw [List.append_nil, hm]

lemma bind {m : (String → Texts) → Attempt Event Course α}
    {f : (String → Texts) → α → Attempt Event Course β} (hm : Attuned d m)
    (hf : ∀ a, Attuned d fun answers => f answers a) :
    Attuned d fun answers => m answers >>= f answers := by
  intro answers x
  show x.trail <+: ((m answers >>= f answers) x).state.trail ∧ ∀ answers',
    (∀ i ∈ ((m answers >>= f answers) x).state.trail, d.dataAt answers' i = d.dataAt answers i) →
    (m answers' >>= f answers') x = (m answers >>= f answers) x
  obtain ⟨hpre, hsame⟩ := hm answers x
  rcases hmx : m answers x with ⟨failure | a, y, js⟩ <;> rw [hmx] at hpre hsame
  · rw [bind_of_error hmx]
    refine ⟨hpre, fun answers' h => ?_⟩
    rw [bind_of_error (hsame answers' h)]
  · obtain ⟨hpre', hsame'⟩ := hf a answers y
    rw [bind_of_ok hmx]
    refine ⟨hpre.trans hpre', fun answers' h => ?_⟩
    -- The trail of the first part is part of the whole trail.
    have hfirst := hsame answers' fun i hi => h i (hpre'.subset hi)
    have hsecond : f answers' a y = f answers a y := hsame' answers' h
    rw [bind_of_ok hfirst, hsecond]

lemma get_bind {f : Course → (String → Texts) → Attempt Event Course β}
    (hf : ∀ x, Attuned d (f x)) : Attuned d fun answers => Attempt.get >>= fun x => f x answers :=
  fun answers x => hf x answers x

lemma pure (a : α) : Attuned d fun _ => (Pure.pure a : Attempt Event Course α) :=
  const fun _ => rfl

end Attuned

lemma supply_congr {answers' : String → Texts} {i : Nat}
    (h : d.dataAt answers' i = d.dataAt answers i) (env : Environment) :
    d.supply answers' i env = d.supply answers i env := by
  unfold Definition.dataAt at h
  unfold Definition.supply
  cases hp : d.panels[i]? with
  | none => rfl
  | some p =>
    rw [hp] at h
    have hanswers : answers' p.id = answers p.id := h
    dsimp only
    rw [hanswers]

lemma attuned_enter (i : Nat) : Attuned d fun answers => enter d answers i := by
  intro answers x
  refine ⟨List.prefix_append x.trail [i], fun answers' h => ?_⟩
  have hi : d.dataAt answers' i = d.dataAt answers i :=
    h i (List.mem_append_right x.trail (List.mem_singleton_self i))
  show enter d answers' i x = enter d answers i x
  rw [enter_apply, enter_apply, supply_congr hi]

lemma attuned_stepForward (validated : Bool) :
    Attuned d fun answers => stepForward d answers validated := by
  refine .get_bind fun x => ?_
  cases x.target? d with
  | none => exact .pure false
  | some i =>
    exact .bind (.const (trail_contribute validated)) fun _ =>
      .bind (.const trail_refresh) fun _ => attuned_enter i

lemma attuned_next (validate : Bool) : Attuned d fun answers => next d answers validate := by
  refine .bind (.const (trail_approve validate)) fun approved => ?_
  cases approved with
  | true => exact attuned_stepForward validate
  | false => exact .pure false

lemma attuned_advance (validate : Bool) (limit : Nat) :
    Attuned d fun answers => advance d answers validate limit := by
  induction limit with
  | zero => exact .pure 0
  | succ limit ih =>
    refine .bind (attuned_next validate) fun moved => ?_
    cases moved with
    | true => exact .bind ih fun moves => .pure (moves + 1)
    | false => exact .pure 0

lemma attuned_finish (validate : Bool) : Attuned d fun _ => finish d validate := by
  refine .get_bind fun x => ?_
  split
  · exact .pure false
  · exact .const (trail_approve validate)

/-- **Only the answers for the panels that are entered make a difference** to a run. -/
theorem attuned_proceed (validate : Bool) :
    Attuned d fun answers => proceed d answers validate :=
  .bind (attuned_advance validate _) fun _ => attuned_finish validate

end Course

end SetupWizard
