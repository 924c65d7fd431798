/-
# Values that come too late

A hold keeps the passes away from a variable.  One might expect that it only delays what they have
computed for it: as soon as the hold is lifted, the next pass has the variable's value again.  That
is so for a derivation that is evaluated in every pass.  A one-shot derivation, however, is marked
by the first pass that evaluates it, whether or not this pass may write the variable; if it may not,
then the value is lost, since from then on the derivation only keeps what its variable has.  For a
derivation that is alone, in force and never without a value, `postponed_of_history` says exactly
when that happens.
-/
import SetupWizard.Proofs.Environment.Provenance

namespace SetupWizard.Environment

variable {env first : Environment} {changes : List Change} {change : Change} {i : Nat}
  {d : Derivation} {n : String}

/-! ### The passes of a history -/

/-- The environments that the passes of a history start from, in their order. -/
def passStarts (env : Environment) : List Change → List Environment
  | [] => []
  | .refresh :: changes => env :: passStarts env.refreshed changes
  | change :: changes => passStarts (change.perform env) changes

lemma passStarts_refresh (env : Environment) (changes : List Change) :
    env.passStarts (.refresh :: changes) = env :: env.refreshed.passStarts changes := rfl

lemma passStarts_of_ne (h : change ≠ .refresh) (env : Environment) (changes : List Change) :
    env.passStarts (change :: changes) = (change.perform env).passStarts changes := by
  cases change with
  | refresh => exact absurd rfl h
  | _ => rfl

/-- The last pass starts from where everything before it has led. -/
lemma passStarts_concat (env : Environment) (changes : List Change) :
    env.passStarts (changes ++ [.refresh]) = env.passStarts changes ++ [env.after changes] := by
  induction changes generalizing env with
  | nil => rfl
  | cons change changes ih =>
    by_cases h : change = .refresh
    · subst h
      rw [List.cons_append, passStarts_refresh, passStarts_refresh, ih]
      rfl
    · rw [List.cons_append, passStarts_of_ne h, passStarts_of_ne h, ih]
      rfl

/-! ### A derivation that serves its variable -/

/-- A pass on the environment succeeds, the derivation at a position is in force on it, and if its
expression is evaluated, it has a value. -/
structure Serves (env : Environment) (i : Nat) : Prop where
  succeeds : env.refresh.isOk = true
  inForce (d : Derivation) : env.derivations[i]? = some d →
    d.inForce env.conditions env.store = true
  hasValue (d : Derivation) : env.derivations[i]? = some d →
    d.isActive env.conditions env.store = true →
      ∃ v, env.evaluate d.expression env.store = .ok (some v)

/-- In a history a variable, which is absent at first, is left to the derivation at a position: it
has no other one, nothing but the passes writes it, and each pass is served by the derivation. -/
structure LeftTo (env : Environment) (changes : List Change) (i : Nat) (d : Derivation) :
    Prop where
  position : env.derivations[i]? = some d
  sole : env.Sole i d.name
  unmarked : d.evaluated = false
  absent : env.store.get? d.name = none
  untouched : ∀ change ∈ changes, ¬change.Touches d.name
  serves : ∀ start ∈ env.passStarts changes, start.Serves i

/-- In a pass that it serves, an active derivation computes its variable. -/
lemma Serves.get?_refreshed (h : env.Serves i) (hd : env.derivations[i]? = some d)
    (hsole : env.Sole i d.name) (hactive : d.isActive env.conditions env.store = true) :
    ∃ v, env.Computes i d.name v ∧ env.refreshed.store.get? d.name =
      if env.store.isBlocked d.name then env.store.get? d.name else some v := by
  obtain ⟨v, hv⟩ := h.hasValue d hd hactive
  have hverdict : env.verdict d = .computed (some v) :=
    Derivation.judge_eq_computed_iff.mpr ⟨hactive, hv⟩
  refine ⟨v, ⟨d, hd, rfl, hactive, hv⟩, ?_⟩
  rw [hsole.get?_of_refresh hd (refresh_eq_ok_refreshed h.succeeds), hverdict]
  rfl

/-- A derivation that is marked and evaluated once keeps its variable as it is. -/
lemma get?_after_of_spent (hd : env.derivations[i]? = some d) (honce : d.oneShot = true)
    (hmark : d.evaluated = true) (hsole : env.Sole i d.name)
    (huntouched : ∀ change ∈ changes, ¬change.Touches d.name)
    (hserves : ∀ start ∈ env.passStarts changes, start.Serves i) :
    (env.after changes).store.get? d.name = env.store.get? d.name := by
  induction changes generalizing env with
  | nil => rfl
  | cons change changes ih =>
    rw [List.forall_mem_cons] at huntouched
    have hd' := getElem?_after_of_evaluated hd hmark [change]
    by_cases h : change = .refresh
    · subst h
      rw [passStarts_refresh, List.forall_mem_cons] at hserves
      have hkept : env.refreshed.store.get? d.name = env.store.get? d.name := by
        rw [hsole.get?_of_refresh hd (refresh_eq_ok_refreshed hserves.1.succeeds),
          getD_request_of_spent honce hmark, hserves.1.inForce d hd]
        exact ite_self _
      exact (ih hd' (hsole.perform huntouched.1) huntouched.2 hserves.2).trans hkept
    · rw [passStarts_of_ne h] at hserves
      exact (ih hd' (hsole.perform huntouched.1) huntouched.2 hserves).trans
        (get?_perform huntouched.1 h)

namespace LeftTo

/-- What happens before the first pass makes no difference. -/
lemma of_cons (h : env.LeftTo (change :: changes) i d) (hchange : change ≠ .refresh) :
    (change.perform env).LeftTo changes i d := by
  have huntouched := List.forall_mem_cons.mp h.untouched
  refine ⟨?_, h.sole.perform huntouched.1, h.unmarked, ?_, huntouched.2, ?_⟩
  · cases change with
    | refresh => exact absurd rfl hchange
    | add new =>
      obtain ⟨hi, -⟩ := List.getElem?_eq_some_iff.mp h.position
      exact (List.getElem?_append_left hi).trans h.position
    | _ => exact h.position
  · rw [get?_perform huntouched.1 hchange, h.absent]
  · rw [← passStarts_of_ne hchange]
    exact h.serves

/-- **The value of a one-shot derivation.**  It is the one that the first pass computes, provided
that this pass may write it; otherwise the variable stays absent. -/
lemma get?_after_of_oneShot (h : env.LeftTo changes i d) (honce : d.oneShot = true)
    (hfirst : (env.passStarts changes).head? = some first) :
    ∃ v, first.Computes i d.name v ∧ (env.after changes).store.get? d.name =
      if first.store.isBlocked d.name then none else some v := by
  induction changes generalizing env with
  | nil => cases hfirst
  | cons change changes ih =>
    by_cases hchange : change = .refresh
    · subst hchange
      obtain rfl : env = first := Option.some.inj hfirst
      obtain ⟨hserves, hlater⟩ := List.forall_mem_cons.mp h.serves
      obtain ⟨huntouched, hafter⟩ := List.forall_mem_cons.mp h.untouched
      have hactive : d.isActive env.conditions env.store = true := by
        simp [Derivation.isActive, hserves.inForce d h.position, h.unmarked]
      obtain ⟨v, hcomputes, hv⟩ := hserves.get?_refreshed h.position h.sole hactive
      -- The pass marks the derivation, whatever it has done to the variable.
      have hmarked : env.refreshed.derivations[i]? = some { d with evaluated := true } := by
        obtain ⟨_, hd, -, -, hvalue⟩ := hcomputes
        obtain rfl := Option.some.inj (h.position.symm.trans hd)
        rw [derivations_of_refresh (refresh_eq_ok_refreshed hserves.succeeds), List.getElem?_map,
          h.position, Option.map_some, verdict,
          Derivation.judge_eq_computed_iff.mpr ⟨hactive, hvalue⟩]
        rfl
      refine ⟨v, hcomputes, ?_⟩
      rw [h.absent] at hv
      rw [← hv]
      exact get?_after_of_spent hmarked honce rfl (h.sole.perform huntouched) hafter hlater
    · rw [passStarts_of_ne hchange] at hfirst
      exact ih (h.of_cons hchange) hfirst

/-- A derivation that is evaluated in every pass gives its variable a value in each pass that may
write it. -/
lemma get?_after_concat_of_not_oneShot (h : env.LeftTo (changes ++ [.refresh]) i d)
    (honce : d.oneShot = false) (hfree : (env.after changes).store.isBlocked d.name = false) :
    ∃ v, (env.after changes).Computes i d.name v ∧
      (env.after (changes ++ [.refresh])).store.get? d.name = some v := by
  have hserves : (env.after changes).Serves i := h.serves _ (by simp [passStarts_concat])
  obtain ⟨d', hd', hpersists⟩ := getElem?_after h.position changes
  have hname : d'.name = d.name := hpersists.name
  have honce' : d'.oneShot = false :=
    (congrArg Derivation.oneShot hpersists.declared).trans honce
  have hsole : (env.after changes).Sole i d.name :=
    h.sole.after fun change hchange => h.untouched change (List.mem_append_left _ hchange)
  have hactive : d'.isActive (env.after changes).conditions (env.after changes).store = true := by
    simp [Derivation.isActive, hserves.inForce d' hd', honce']
  rw [← hname] at hsole hfree ⊢
  obtain ⟨v, hcomputes, hv⟩ := hserves.get?_refreshed hd' hsole hactive
  refine ⟨v, hcomputes, ?_⟩
  rw [after_concat, Change.perform, hv, hfree, if_neg Bool.false_ne_true]

end LeftTo

/-! ### Derivations without conditions -/

/-- Whether a change is a pass or a hold that comes or goes. -/
def Change.IsPassOrHold : Change → Prop
  | .refresh | .block _ _ | .unblock _ _ => True
  | _ => False

/-- No derivation has a condition, and every expression has a value on every store. -/
structure Ready (env : Environment) : Prop where
  unconditional : ∀ d ∈ env.derivations, d.condition? = none
  hasValue (expression : String) (store : Store) :
    ∃ v, env.evaluate expression store = .ok (some v)

namespace Ready

lemma serves (h : env.Ready) (i : Nat) : env.Serves i := by
  have hforce (d : Derivation) (hd : d ∈ env.derivations) :
      d.inForce env.conditions env.store = true := by
    simp [Derivation.inForce, h.unconditional d hd]
  refine ⟨?_, fun d hd => hforce d (List.mem_of_getElem? hd), fun d _ _ => h.hasValue _ _⟩
  rw [refresh_eq_ok_iff.mpr ⟨fun d hd => ?_, rfl⟩]
  · rfl
  · obtain ⟨v, hv⟩ := h.hasValue d.expression env.store
    rw [verdict, Derivation.judge, if_pos (hforce d hd), hv]
    split <;> rfl

lemma perform (h : env.Ready) (hchange : change.IsPassOrHold) : (change.perform env).Ready := by
  cases change with
  | refresh =>
    refine ⟨fun d hd => ?_, by simpa [Change.perform, evaluate_refreshed] using h.hasValue⟩
    rw [Change.perform, derivations_of_refresh (refresh_eq_ok_refreshed (h.serves 0).succeeds),
      List.mem_map] at hd
    obtain ⟨d₀, hd₀, rfl⟩ := hd
    exact (congrArg Derivation.condition? (Derivation.declared_after d₀ _)).trans
      (h.unconditional d₀ hd₀)
  | block name holder => exact ⟨h.unconditional, h.hasValue⟩
  | unblock name holder => exact ⟨h.unconditional, h.hasValue⟩
  | _ => exact hchange.elim

lemma serves_of_mem_passStarts (h : env.Ready)
    (hchanges : ∀ change ∈ changes, change.IsPassOrHold) (i : Nat) :
    ∀ start ∈ env.passStarts changes, start.Serves i := by
  induction changes generalizing env with
  | nil => simp [passStarts]
  | cons change changes ih =>
    rw [List.forall_mem_cons] at hchanges
    have hlater := ih (h.perform hchanges.1) hchanges.2
    by_cases hrefresh : change = .refresh
    · subst hrefresh
      rw [passStarts_refresh, List.forall_mem_cons]
      exact ⟨h.serves i, hlater⟩
    · rw [passStarts_of_ne hrefresh]
      exact hlater

/-- Then a variable is left to its derivation as long as nothing but passes and holds happen. -/
lemma leftTo (h : env.Ready) (hd : env.derivations[i]? = some d) (hsole : env.Sole i d.name)
    (hmark : d.evaluated = false) (habsent : env.store.get? d.name = none)
    (hchanges : ∀ change ∈ changes, change.IsPassOrHold) : env.LeftTo changes i d := by
  refine ⟨hd, hsole, hmark, habsent, fun change hchange => ?_,
    h.serves_of_mem_passStarts hchanges i⟩
  have hkind := hchanges change hchange
  cases change with
  | refresh => exact id
  | block name holder => exact id
  | unblock name holder => exact id
  | _ => exact hkind.elim

end Ready

/-! ### Main result -/

/-- A derivation is evaluated once, and in the first pass of a history its variable is blocked. -/
def ComesTooEarly (env : Environment) (changes : List Change) (d : Derivation) : Prop :=
  d.oneShot = true ∧ ∃ first ∈ (env.passStarts changes).head?, first.store.isBlocked d.name = true

/-- **Values that come too late.**  Let a variable, which is absent at first, be left to a
derivation, let holds come and go, and consider a pass that may write the variable.  After this pass
the variable has a value that the derivation has computed in this pass or in an earlier one, with
one exception: if the derivation is evaluated once and the variable was blocked in the first pass of
all, then the variable is absent. -/
theorem postponed_of_history (h : env.LeftTo (changes ++ [.refresh]) i d)
    (hfree : (env.after changes).store.isBlocked d.name = false) :
    let passed := env.after (changes ++ [.refresh])
    let starts := env.passStarts (changes ++ [.refresh])
    ((∃ v, passed.store.get? d.name = some v ∧ ∃ start ∈ starts, start.Computes i d.name v) ↔
      ¬env.ComesTooEarly (changes ++ [.refresh]) d) ∧
    (env.ComesTooEarly (changes ++ [.refresh]) d → passed.store.get? d.name = none) := by
  intro passed starts
  cases honce : d.oneShot with
  | false =>
    obtain ⟨v, hcomputes, hv⟩ := h.get?_after_concat_of_not_oneShot honce hfree
    have hpunctual : ¬env.ComesTooEarly (changes ++ [.refresh]) d := by
      simp [ComesTooEarly, honce]
    refine ⟨iff_of_true ⟨v, hv, _, ?_, hcomputes⟩ hpunctual, fun hearly => absurd hearly hpunctual⟩
    simp [starts, passStarts_concat]
  | true =>
    obtain ⟨first, hfirst⟩ :
        ∃ first, (env.passStarts (changes ++ [.refresh])).head? = some first := by
      simp [passStarts_concat]
    obtain ⟨v, hcomputes, hv⟩ := h.get?_after_of_oneShot honce hfirst
    have hearly : env.ComesTooEarly (changes ++ [.refresh]) d ↔
        first.store.isBlocked d.name = true := by
      simp [ComesTooEarly, honce, hfirst]
    rw [hearly]
    cases hblocked : first.store.isBlocked d.name with
    | false =>
      rw [hblocked, if_neg Bool.false_ne_true] at hv
      exact ⟨iff_of_true ⟨v, hv, first, List.mem_of_mem_head? hfirst, hcomputes⟩ nofun, nofun⟩
    | true =>
      rw [hblocked, if_pos rfl] at hv
      refine ⟨iff_of_false (fun ⟨w, hw, _⟩ => ?_) (not_not.mpr rfl), fun _ => hv⟩
      cases hv.symm.trans hw

/-- A variable with one derivation, which is evaluated once. -/
def lone : Environment where
  derivations := [{ name := "N", expression := "one", oneShot := true }]
  evaluate := fun expression _ => .ok (some expression)

lemma lone_leftTo (h : ∀ change ∈ changes, change.IsPassOrHold) :
    lone.LeftTo changes 0 { name := "N", expression := "one", oneShot := true } := by
  refine Ready.leftTo ⟨by simp [lone], fun expression _ => ⟨expression, rfl⟩⟩ rfl ?_ rfl
    (by decide +kernel) h
  intro j d hd _
  have hj : j < 1 := (List.getElem?_eq_some_iff.mp hd).1
  omega

/-- If the hold comes after the first pass, then the value of this pass is there when the hold has
gone. -/
theorem postponed_of_lateHold :
    let changes : List Change := [.refresh, .block "N" "panel", .refresh, .unblock "N" "panel"]
    ∃ v, (lone.after (changes ++ [.refresh])).store.get? "N" = some v ∧
      ∃ start ∈ lone.passStarts (changes ++ [.refresh]), start.Computes 0 "N" v := by
  intro changes
  have hleft : lone.LeftTo (changes ++ [.refresh]) 0
      { name := "N", expression := "one", oneShot := true } :=
    lone_leftTo (by simp [changes, Change.IsPassOrHold])
  have hfree : (lone.after changes).store.isBlocked "N" = false := by decide +kernel
  refine (postponed_of_history hleft hfree).1.mpr fun ⟨_, first, hfirst, hblocked⟩ => ?_
  obtain rfl : lone = first := Option.some.inj hfirst
  exact absurd hblocked (by decide +kernel)

/-- If the hold is there in the first pass, then the value never comes, although the variable is not
blocked any more and all passes succeed. -/
theorem not_postponed_of_earlyHold :
    let d : Derivation := { name := "N", expression := "one", oneShot := true }
    let changes : List Change := [.block "N" "panel", .refresh, .unblock "N" "panel"]
    lone.LeftTo (changes ++ [.refresh]) 0 d ∧
      (lone.after changes).store.isBlocked d.name = false ∧
      ¬∃ v, (lone.after (changes ++ [.refresh])).store.get? d.name = some v := by
  intro d changes
  have habsent : (lone.after (changes ++ [.refresh])).store.get? d.name = none := by
    decide +kernel
  refine ⟨lone_leftTo (by simp [changes, Change.IsPassOrHold]), by decide +kernel, ?_⟩
  rintro ⟨v, hv⟩
  cases habsent.symm.trans hv

end SetupWizard.Environment
