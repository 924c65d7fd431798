/-
# Conditions

A condition is a named question about the variables.  Its written form has room for several
tests at once, of which the first that is filled in counts: all of some other conditions, any
of some other conditions, equality with a value, difference from a value, being set or not.
The answer to that test may be inverted.
-/
namespace SetupWizard

/-- A condition as it is declared. -/
structure Condition where
  /-- The name under which panels and other conditions refer to it. -/
  id : String
  /-- The variable that the tests for a value look at. -/
  subject? : Option String := none
  /-- The value that the variable must have. -/
  equals? : Option String := none
  /-- The value that the variable must not have. -/
  differs? : Option String := none
  /-- Whether the variable must be set. -/
  defined? : Option Bool := none
  /-- Conditions that must all hold. -/
  all : List String := []
  /-- Conditions of which one must hold. -/
  any : List String := []
  /-- Whether the answer is inverted. -/
  negate : Bool := false
deriving DecidableEq, Inhabited

/-- What a condition asks of the variables, before the answer is inverted. -/
inductive Condition.Test where
  /-- Every one of the named conditions holds. -/
  | all (ids : List String)
  /-- One of the named conditions holds. -/
  | any (ids : List String)
  /-- The variable is set to the value. -/
  | equals (value : String)
  /-- The variable is not set to the value. -/
  | differs (value : String)
  /-- The variable is set exactly if the flag says so. -/
  | defined (expected : Bool)
  /-- Nothing is asked, and the answer is no. -/
  | absent
deriving DecidableEq

namespace Condition

/-- The condition that a variable has a value. -/
def equals (id name value : String) : Condition :=
  { id, subject? := some name, equals? := some value }

/-- The condition that a variable is set. -/
def defined (id name : String) : Condition :=
  { id, subject? := some name, defined? := some true }

/-- The opposite of a condition. -/
def negated (c : Condition) : Condition := { c with negate := !c.negate }

/-- The conditions that a condition names. -/
def references (c : Condition) : List String := c.all ++ c.any

/-- The first test that is filled in. -/
def test (c : Condition) : Test :=
  match c.all, c.any, c.equals?, c.differs?, c.defined? with
  | id :: ids, _, _, _, _ => .all (id :: ids)
  | [], id :: ids, _, _, _ => .any (id :: ids)
  | [], [], some value, _, _ => .equals value
  | [], [], none, some value, _ => .differs value
  | [], [], none, none, some expected => .defined expected
  | [], [], none, none, none => .absent

namespace Test

/-- The conditions that a test depends on. -/
def references : Test → List String
  | .all ids => ids
  | .any ids => ids
  | _ => []

end Test

@[simp] theorem negated_negated (c : Condition) : c.negated.negated = c := by
  simp [negated]

/-- The conditions in use are among those that are named. -/
theorem references_test_subset (c : Condition) : c.test.references ⊆ c.references := by
  unfold test references
  split <;> simp_all [Test.references]

end Condition

end SetupWizard
