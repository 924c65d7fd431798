/-
# Histories of an environment

Between two looks at an environment anything may have happened to it: passes that succeeded or
failed, more derivations, changes of variables and holds by whoever shares the environment, other
authorities for conditions and expressions.  This file says what becomes of the derivations in such
a history.  They keep their order and their declared fields, new ones come behind them, and a
derivation that is marked as evaluated stays marked.
-/
import SetupWizard.Proofs.Derivation.Requests

namespace SetupWizard

lemma Store.get?_extend_of_forall_ne {pairs : List (String × String)} {n : String}
    (h : ∀ pair ∈ pairs, pair.1 ≠ n) (store : Store) :
    (store.extend pairs).get? n = store.get? n := by
  induction pairs generalizing store with
  | nil => rfl
  | cons pair pairs ih =>
    rw [List.forall_mem_cons] at h
    exact (ih h.2 _).trans ((get?_set ..).trans (if_neg h.1))

lemma Store.holds_extend (pairs : List (String × String)) (store : Store) :
    (store.extend pairs).holds = store.holds := by
  induction pairs generalizing store with
  | nil => rfl
  | cons pair pairs ih => exact (ih _).trans (holds_set ..)

namespace Derivation

/-- The rule as it is declared, before any evaluation. -/
def declared (d : Derivation) : Derivation := { d with evaluated := false }

@[simp] lemma declared_after (d : Derivation) (v : Verdict) :
    (d.after v).declared = d.declared := by
  cases v <;> rfl

/-- The same rule at a later time: it is declared alike, and marked if it was marked. -/
structure Persists (d d' : Derivation) : Prop where
  declared : d'.declared = d.declared
  evaluated : d.evaluated = true → d'.evaluated = true

namespace Persists

variable {d d' d'' : Derivation}

lemma refl (d : Derivation) : d.Persists d := ⟨rfl, id⟩

lemma trans (h : d.Persists d') (h' : d'.Persists d'') : d.Persists d'' :=
  ⟨h'.declared.trans h.declared, fun hd => h'.evaluated (h.evaluated hd)⟩

lemma after (d : Derivation) (v : Verdict) : d.Persists (d.after v) :=
  ⟨declared_after d v, fun hd => (evaluated_after d v).mpr (.inl hd)⟩

lemma name (h : d.Persists d') : d'.name = d.name :=
  (congrArg Derivation.name h.declared :)

/-- A marked rule does not change any more. -/
lemma eq_of_evaluated (h : d.Persists d') (hd : d.evaluated = true) : d' = d := by
  have hdeclared := h.declared
  have hmark := h.evaluated hd
  cases d
  cases d'
  simp_all [Derivation.declared]

end Persists

end Derivation

namespace Environment

/-- Something that happens to an environment. -/
inductive Change where
  /-- The derived variables are brought up to date; a pass that fails changes nothing. -/
  | refresh
  /-- A derivation is added. -/
  | add (d : Derivation)
  | set (name value : String)
  | unset (name : String)
  | extend (pairs : List (String × String))
  | block (name holder : String)
  | unblock (name holder : String)
  /-- Conditions and expressions are judged by other authorities from now on. -/
  | consult (conditions : Authority) (evaluate : Evaluator)

/-- The environment that a pass leaves behind, also if it fails. -/
def refreshed (env : Environment) : Environment :=
  match env.update with
  | .ok () env' => env'
  | .error _ env' => env'

namespace Change

/-- The environment after a change. -/
def perform (env : Environment) : Change → Environment
  | .refresh => env.refreshed
  | .add d => env.addDerivation d
  | .set name value => env.mapStore (·.set name value)
  | .unset name => env.mapStore (·.unset name)
  | .extend pairs => env.mapStore (·.extend pairs)
  | .block name holder => env.mapStore (·.block name holder)
  | .unblock name holder => env.mapStore (·.unblock name holder)
  | .consult conditions evaluate => { env with conditions, evaluate }

/-- The derivation that a change adds, if it adds one. -/
def added? : Change → Option Derivation
  | .add d => some d
  | _ => none

/-- Whether a change writes a variable or brings another derivation of it, passes aside. -/
def Touches (n : String) : Change → Prop
  | .add d => d.name = n
  | .set name _ => name = n
  | .unset name => name = n
  | .extend pairs => ∃ pair ∈ pairs, pair.1 = n
  | _ => False

end Change

/-- The environment after several changes. -/
def after (env : Environment) (changes : List Change) : Environment :=
  changes.foldl Change.perform env

variable {env env' : Environment} {changes more : List Change}

@[simp] lemma after_nil (env : Environment) : env.after [] = env := rfl

lemma after_cons (env : Environment) (change : Change) (changes : List Change) :
    env.after (change :: changes) = (change.perform env).after changes := rfl

@[simp] lemma after_append (env : Environment) (changes more : List Change) :
    env.after (changes ++ more) = (env.after changes).after more :=
  List.foldl_append

lemma after_concat (env : Environment) (changes : List Change) (change : Change) :
    env.after (changes ++ [change]) = change.perform (env.after changes) :=
  after_append env changes [change]

/-! ### A pass -/

/-- A pass that fails leaves the environment as it was. -/
lemma refreshed_eq (env : Environment) :
    env.refreshed =
      match env.refresh with
      | .ok env' => env'
      | .error _ => env := by
  rw [refreshed, update_eq]
  cases env.refresh <;> rfl

lemma refreshed_of_ok (h : env.refresh = .ok env') : env.refreshed = env' := by
  rw [refreshed_eq, h]

lemma refresh_eq_ok_refreshed (h : env.refresh.isOk = true) :
    env.refresh = .ok env.refreshed := by
  cases hrefresh : env.refresh with
  | ok env' => rw [refreshed_of_ok hrefresh]
  | error e => simp [hrefresh, Except.isOk, Except.toBool] at h

/-- A pass respects the holds, also if it fails. -/
lemma respects_refreshed (env : Environment) : env.store.Respects env.refreshed.store := by
  rw [refreshed_eq]
  cases h : env.refresh with
  | ok env' => exact respects_of_refresh h
  | error e => exact .refl env.store

/-- A pass marks derivations and changes nothing else about them. -/
lemma derivations_of_refresh (h : env.refresh = .ok env') :
    env'.derivations = env.derivations.map fun d => d.after (env.verdict d) := by
  obtain ⟨-, rfl⟩ := refresh_eq_ok_iff.mp h
  rfl

/-! ### Variables that only the passes write -/

lemma get?_perform {change : Change} {n : String} (huntouched : ¬change.Touches n)
    (hchange : change ≠ .refresh) : (change.perform env).store.get? n = env.store.get? n := by
  cases change with
  | refresh => exact absurd rfl hchange
  | set name value => exact (Store.get?_set ..).trans (if_neg huntouched)
  | unset name => exact (Store.get?_unset ..).trans (if_neg huntouched)
  | extend pairs =>
    exact Store.get?_extend_of_forall_ne (fun pair hpair hn => huntouched ⟨pair, hpair, hn⟩) _
  | unblock name holder => exact Store.get?_unblock ..
  | _ => rfl

/-! ### The derivations of a history -/

lemma declared_perform (env : Environment) (change : Change) :
    (change.perform env).derivations.map Derivation.declared =
      env.derivations.map Derivation.declared ++ change.added?.toList.map Derivation.declared := by
  cases change with
  | refresh =>
    rw [Change.perform, refreshed_eq]
    cases h : env.refresh with
    | ok env' => simp [derivations_of_refresh h, Change.added?, Function.comp_def]
    | error e => simp [Change.added?]
  | add d => simp [Change.perform, addDerivation, addDerivations, Change.added?]
  | _ => simp [Change.perform, mapStore, Change.added?]

/-- **Derivations are only appended.**  They keep their declared fields and their order. -/
lemma declared_after_changes (env : Environment) (changes : List Change) :
    (env.after changes).derivations.map Derivation.declared =
      env.derivations.map Derivation.declared ++
        (changes.filterMap Change.added?).map Derivation.declared := by
  induction changes generalizing env with
  | nil => simp
  | cons change changes ih =>
    rw [after_cons, ih, declared_perform, List.append_assoc]
    cases h : change.added? <;> simp [h]

/-- The derivation at a position is still there after a change. -/
lemma getElem?_perform {i : Nat} {d : Derivation} (h : env.derivations[i]? = some d)
    (change : Change) : ∃ d', (change.perform env).derivations[i]? = some d' ∧ d.Persists d' := by
  cases change with
  | refresh =>
    rw [Change.perform, refreshed_eq]
    cases hrefresh : env.refresh with
    | ok env' =>
      refine ⟨d.after (env.verdict d), ?_, .after d _⟩
      simp [derivations_of_refresh hrefresh, h]
    | error e => exact ⟨d, h, .refl d⟩
  | add new =>
    obtain ⟨hi, -⟩ := List.getElem?_eq_some_iff.mp h
    exact ⟨d, (List.getElem?_append_left hi).trans h, .refl d⟩
  | _ => exact ⟨d, h, .refl d⟩

/-- The derivation at a position is still there after any history. -/
lemma getElem?_after {i : Nat} {d : Derivation} (h : env.derivations[i]? = some d)
    (changes : List Change) :
    ∃ d', (env.after changes).derivations[i]? = some d' ∧ d.Persists d' := by
  induction changes generalizing env d with
  | nil => exact ⟨d, h, .refl d⟩
  | cons change changes ih =>
    obtain ⟨d₁, h₁, hd₁⟩ := getElem?_perform h change
    obtain ⟨d₂, h₂, hd₂⟩ := ih h₁
    exact ⟨d₂, h₂, hd₁.trans hd₂⟩

/-- A mark is never taken away, and what is marked does not change any more. -/
lemma getElem?_after_of_evaluated {i : Nat} {d : Derivation} (h : env.derivations[i]? = some d)
    (hd : d.evaluated = true) (changes : List Change) :
    (env.after changes).derivations[i]? = some d := by
  obtain ⟨d', hd', hpersists⟩ := getElem?_after h changes
  rw [hd', hpersists.eq_of_evaluated hd]

end Environment

end SetupWizard
