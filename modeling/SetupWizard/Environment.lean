/-
# Environments

An environment is what the panels of a wizard share: the variables, the derivations, and the
three authorities that these are judged by, for conditions, for expressions and for filling
texts.  Panels may replace any part of it.
-/
import SetupWizard.Derivation.Pass

namespace SetupWizard

/-- The variables of an installation with the rules that derive some of them. -/
structure Environment where
  /-- The variables. -/
  store : Store := ∅
  /-- The rules, in the order in which they were added. -/
  derivations : List Derivation := []
  /-- How texts are filled with the values of variables. -/
  substitute : Substitutor := Template.substitutor
  /-- Who answers conditions. -/
  conditions : Authority := ConditionTable.holds ∅
  /-- Who evaluates expressions. -/
  evaluate : Evaluator := .ofSubstitutor substitute

namespace Environment

/-- The environment with the store changed by a function. -/
def mapStore (f : Store → Store) (env : Environment) : Environment :=
  { env with store := f env.store }

/-- The environment with more derivations behind the others. -/
def addDerivations (env : Environment) (added : List Derivation) : Environment :=
  { env with derivations := env.derivations ++ added }

/-- The environment with one more derivation behind the others. -/
def addDerivation (env : Environment) (d : Derivation) : Environment := env.addDerivations [d]

/-- Whether a condition holds for the current variables. -/
def isTrue (env : Environment) (id : String) : Bool := env.conditions id env.store

/-- The given text filled with the current values. -/
def replace (env : Environment) (text : String) : String :=
  Substitutor.replace env.substitute env.store text

/-- Brings the derived variables up to date. -/
def update (env : Environment) : EStateM.Result RefreshError Environment Unit :=
  match Derivation.update env.conditions env.evaluate (env.derivations, env.store) with
  | .ok () (derivations, store) => .ok () { env with derivations, store }
  | .error e (derivations, store) => .error e { env with derivations, store }

/-- The environment with the derived variables up to date. -/
def refresh (env : Environment) : Except RefreshError Environment :=
  match env.update with
  | .ok () env => .ok env
  | .error e _ => .error e

/-- The expressions that bringing the derived variables up to date evaluates. -/
def evaluations (env : Environment) : List String :=
  (Derivation.evaluations env.conditions env.evaluate env.store env.derivations).map
    Derivation.expression

theorem refresh_eq (env : Environment) :
    env.refresh =
      match Derivation.refresh env.conditions env.evaluate env.derivations env.store with
      | .ok (derivations, store) => .ok { env with derivations, store }
      | .error e => .error e := by
  rw [refresh, update, Derivation.refresh]
  cases Derivation.update env.conditions env.evaluate (env.derivations, env.store) <;> rfl

/-- **A pass is all or nothing.**  Where it fails, the environment is as it was before. -/
theorem update_eq (env : Environment) :
    env.update =
      match env.refresh with
      | .ok env' => .ok () env'
      | .error e => .error e env := by
  rw [refresh, update, Derivation.update_apply]
  cases Derivation.verdicts env.conditions env.evaluate env.store env.derivations <;> rfl

end Environment

end SetupWizard
