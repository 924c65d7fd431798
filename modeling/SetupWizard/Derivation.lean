/-
# Derivations

A derivation is a rule for the value of one variable: an expression, and perhaps a condition
under which the rule is in force.  Judging a derivation says what the rule asks for on a given
store, without changing anything; `SetupWizard.Derivation.Pass` carries a list of such
judgements out.
-/
import SetupWizard.Condition.Table
import SetupWizard.Template

namespace SetupWizard

/-- Why an expression has no value. -/
inductive EvaluationError where
  /-- The expression itself is broken. -/
  | fatal (message : String)
  /-- Anything else: a text and the causes behind it, outermost first. -/
  | other (text : String) (causes : List String)
deriving DecidableEq, Repr

namespace EvaluationError

/-- A failed substitution, as the reason why an expression has no value. -/
def ofSubstitution (e : SubstitutionError) : EvaluationError := .other e.message []

/-- The wording of the error and of the causes behind it, outermost first. -/
def chain : EvaluationError → List String
  | .fatal message => [message]
  | .other text causes => text :: causes

/-- The wording of the error. -/
def message : EvaluationError → String
  | .fatal message => message
  | .other text _ => text

end EvaluationError

/-- Whoever computes the value of an expression on a store, if it has one. -/
abbrev Evaluator := String → Store → Except EvaluationError (Option String)

/-- The evaluator that takes an expression for a text to fill. -/
def Evaluator.ofSubstitutor (substitute : Substitutor) : Evaluator := fun expression store =>
  match substitute store expression with
  | .ok value => .ok (some value)
  | .error e => .error (.ofSubstitution e)

/-- Why the derived variables could not be brought up to date. -/
inductive RefreshError where
  /-- The expression of a variable is broken. -/
  | fatal (name : String) (message : String)
  /-- The value of a variable could not be computed, for the reasons given. -/
  | wrapped (name : String) (reason : String) (causes : List String)
deriving DecidableEq, Repr

namespace RefreshError

/-- The variable whose value could not be computed. -/
def culprit : RefreshError → String
  | .fatal name _ => name
  | .wrapped name _ _ => name

/-- Whether the error shows a broken declaration. -/
def isFatal : RefreshError → Bool
  | .fatal _ _ => true
  | .wrapped _ _ _ => false

/-- The wording of the error. -/
def message : RefreshError → String
  | .fatal _ message => message
  | .wrapped name _ _ => "failed to refresh dynamic variable " ++ name

/-- The wording of what lies behind the error, outermost first. -/
def sources : RefreshError → List String
  | .fatal _ _ => []
  | .wrapped _ reason causes => reason :: causes

/-- The wording of the error and of what lies behind it, outermost first. -/
def chain (e : RefreshError) : List String := e.message :: e.sources

end RefreshError

/-- A rule for the value of one variable. -/
structure Derivation where
  /-- The variable that the rule is for. -/
  name : String
  /-- What the value is computed from. -/
  expression : String
  /-- The condition under which the rule is in force. -/
  condition? : Option String := none
  /-- Whether the value is computed once and kept from then on. -/
  oneShot : Bool := false
  /-- Whether the variable is unset while the rule is not in force. -/
  autoUnset : Bool := true
  /-- Whether an expression without a value unsets the variable instead of failing, unless
  the expression is broken. -/
  ignoreFailure : Bool := false
  /-- Whether the value has been computed. -/
  evaluated : Bool := false
deriving DecidableEq, Inhabited

/-- What a derivation asks for on a given store. -/
inductive Derivation.Verdict where
  /-- Nothing: it is not in force and leaves its variable alone. -/
  | dormant
  /-- To unset the variable: it is not in force. -/
  | withdrawn
  /-- To keep the current value, if there is one: it was computed before. -/
  | carried (current : Option String)
  /-- To have the value that its expression has now; to be unset where it has none. -/
  | computed (value : Option String)
  /-- To unset the variable: the expression failed and that is to be ignored. -/
  | ignored
  /-- To stop: the expression failed. -/
  | failed (e : RefreshError)
deriving DecidableEq

namespace Derivation

/-- Whether the rule is in force on a store. -/
def inForce (conditions : Authority) (store : Store) (d : Derivation) : Bool :=
  match d.condition? with
  | none => true
  | some id => conditions id store

/-- Whether the expression is evaluated on a store. -/
def isActive (conditions : Authority) (store : Store) (d : Derivation) : Bool :=
  d.inForce conditions store && !(d.oneShot && d.evaluated)

/-- What becomes of the outcome of an evaluation. -/
def ofOutcome (d : Derivation) : Except EvaluationError (Option String) → Verdict
  | .ok value => .computed value
  | .error (.fatal message) => .failed (.fatal d.name message)
  | .error (.other text causes) =>
    if d.ignoreFailure then .ignored else .failed (.wrapped d.name text causes)

/-- What the rule asks for on a store. -/
def judge (conditions : Authority) (evaluate : Evaluator) (store : Store) (d : Derivation) :
    Verdict :=
  if d.inForce conditions store then
    if d.oneShot && d.evaluated then .carried (store.get? d.name)
    else d.ofOutcome (evaluate d.expression store)
  else if d.autoUnset then .withdrawn
  else .dormant

/-- What the verdict means for the variable: nothing, a value, or no value. -/
def Verdict.request : Verdict → Option (Option String)
  | .dormant => none
  | .withdrawn => some none
  | .carried none => none
  | .carried (some value) => some (some value)
  | .computed value => some value
  | .ignored => some none
  | .failed _ => none

/-- The rule after a pass in which it had the given verdict. -/
def after (d : Derivation) : Verdict → Derivation
  | .computed _ => { d with evaluated := true }
  | _ => d

@[simp] theorem name_after (d : Derivation) (v : Verdict) : (d.after v).name = d.name := by
  cases v <;> rfl

theorem evaluated_after (d : Derivation) (v : Verdict) :
    (d.after v).evaluated = true ↔ d.evaluated = true ∨ ∃ value, v = .computed value := by
  cases v <;> simp [after]

end Derivation

end SetupWizard
