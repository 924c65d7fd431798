/-
# Refresh passes

A pass brings all derived variables up to date at once.  Every derivation is judged on the
store as it was before the pass, so the order of unrelated derivations does not matter and a
chain of derived variables settles one link per pass.  The requests of the verdicts are
collected by name, where a value wins over its absence and a later value over an earlier one,
and only when no derivation failed are they carried out, blocked names excepted.
-/
import SetupWizard.Derivation

namespace SetupWizard.Derivation

/-- What a pass will do to the variables.  One that is to be set is not unset, even if that is
asked for as well. -/
@[ext]
structure Requests where
  /-- The variables to set, and to what. -/
  toSet : Texts := ∅
  /-- The variables to unset. -/
  toUnset : Std.ExtTreeSet String := ∅

namespace Requests

/-- Adds the request for one variable to those before it. -/
def add (requests : Requests) (name : String) : Option (Option String) → Requests
  | none => requests
  | some (some value) => { requests with toSet := requests.toSet.insert name value }
  | some none => { requests with toUnset := requests.toUnset.insert name }

/-- Unsets a variable, unless it is to be set or is blocked. -/
def unsetOne (requests : Requests) (store : Store) (name : String) : Store :=
  if requests.toSet.contains name then store
  else if store.isBlocked name then store
  else store.unset name

/-- Sets a variable, unless it is blocked. -/
def setOne (store : Store) (name value : String) : Store :=
  if store.isBlocked name then store else store.set name value

/-- Unsets all variables that are to be unset. -/
def unsetAll (requests : Requests) (store : Store) : Store :=
  requests.toUnset.toList.foldl requests.unsetOne store

/-- Sets all variables that are to be set. -/
def setAll (requests : Requests) (store : Store) : Store :=
  requests.toSet.toList.foldl (fun s entry => setOne s entry.1 entry.2) store

/-- Carries all requests out, those for blocked variables excepted. -/
def apply (requests : Requests) (store : Store) : Store :=
  requests.setAll (requests.unsetAll store)

end Requests

/-- The verdicts on all derivations, or the failure of the first that fails. -/
def verdicts (conditions : Authority) (evaluate : Evaluator) (store : Store) :
    List Derivation → Except RefreshError (List Verdict)
  | [] => .ok []
  | d :: ds =>
    match d.judge conditions evaluate store with
    | .failed e => .error e
    | v =>
      match verdicts conditions evaluate store ds with
      | .ok vs => .ok (v :: vs)
      | .error e => .error e

/-- The requests of all derivations together. -/
def requests (ds : List Derivation) (vs : List Verdict) : Requests :=
  (ds.zip vs).foldl (fun collected dv => collected.add dv.1.name dv.2.request) {}

/-- Brings the derived variables up to date.  What has been written when an error occurs stays
written. -/
def update (conditions : Authority) (evaluate : Evaluator) :
    EStateM RefreshError (List Derivation × Store) Unit := do
  let (ds, store) ← get
  let vs ← ofExcept (verdicts conditions evaluate store ds)
  let plan := requests ds vs
  modify fun (ds, store) => (List.zipWith after ds vs, store)
  modify fun (ds, store) => (ds, plan.unsetAll store)
  modify fun (ds, store) => (ds, plan.setAll store)

/-- The derivations and the store with the derived variables up to date. -/
def refresh (conditions : Authority) (evaluate : Evaluator) (ds : List Derivation)
    (store : Store) : Except RefreshError (List Derivation × Store) :=
  match update conditions evaluate (ds, store) with
  | .ok () after => .ok after
  | .error e _ => .error e

/-- The derivations whose expressions a pass evaluates, in order, up to the first failure. -/
def evaluations (conditions : Authority) (evaluate : Evaluator) (store : Store) :
    List Derivation → List Derivation
  | [] => []
  | d :: ds =>
    match d.judge conditions evaluate store with
    | .failed _ => [d]
    | _ =>
      if d.isActive conditions store then d :: evaluations conditions evaluate store ds
      else evaluations conditions evaluate store ds

@[simp] theorem verdicts_nil (conditions : Authority) (evaluate : Evaluator) (store : Store) :
    verdicts conditions evaluate store [] = .ok [] := rfl

/-- A pass judges all derivations before it writes anything. -/
theorem update_apply (conditions : Authority) (evaluate : Evaluator) (ds : List Derivation)
    (store : Store) :
    update conditions evaluate (ds, store) =
      match verdicts conditions evaluate store ds with
      | .error e => .error e (ds, store)
      | .ok vs => .ok () (List.zipWith after ds vs, (requests ds vs).apply store) := by
  show (ofExcept (verdicts conditions evaluate store ds) >>= _ : EStateM _ _ Unit) _ = _
  cases verdicts conditions evaluate store ds <;> rfl

theorem refresh_eq (conditions : Authority) (evaluate : Evaluator) (ds : List Derivation)
    (store : Store) :
    refresh conditions evaluate ds store =
      match verdicts conditions evaluate store ds with
      | .error e => .error e
      | .ok vs => .ok (List.zipWith after ds vs, (requests ds vs).apply store) := by
  rw [refresh, update_apply]
  cases verdicts conditions evaluate store ds <;> rfl

end SetupWizard.Derivation
