/-
# Tables of conditions

A table holds conditions by their ids and answers, for a store, whether the condition with a
given id holds.  Conditions refer to each other and may do so in circles, so a chain of
references is followed for a limited number of steps: a condition that lies deeper than that
does not hold, and neither does a condition that the table does not have.
-/
import SetupWizard.Condition
import SetupWizard.Store

namespace SetupWizard

/-- Whoever answers, for the id of a condition, whether it holds in a store. -/
abbrev Authority := String → Store → Bool

/-- Conditions by id. -/
abbrev ConditionTable := Std.ExtTreeMap String Condition

namespace Condition

/-- The answer to a test, given the value of the variable it looks at and the answers of
other conditions. -/
def Test.answer (value? : Option String) (holds : String → Bool) : Test → Bool
  | .all ids => ids.all holds
  | .any ids => ids.any holds
  | .equals value => value? == some value
  | .differs value => value? != some value
  | .defined expected => value?.isSome == expected
  | .absent => false

/-- The answer of a condition, given the answers of other conditions. -/
def answer (c : Condition) (store : Store) (holds : String → Bool) : Bool :=
  (c.test.answer (c.subject?.bind store.get?) holds) != c.negate

end Condition

namespace ConditionTable

/-- Puts a condition into the table, in place of one with the same id. -/
def add (table : ConditionTable) (c : Condition) : ConditionTable := table.insert c.id c

/-- The table of a list of conditions, the later ones put in last. -/
def ofConditions (conditions : List Condition) : ConditionTable :=
  conditions.foldl add ∅

/-- Whether a condition holds when chains of references are followed for fewer than `depth`
steps. -/
def holdsWithin (table : ConditionTable) (store : Store) : Nat → String → Bool
  | 0, _ => false
  | depth + 1, id =>
    match table[id]? with
    | none => false
    | some c => c.answer store (holdsWithin table store depth)

/-- The number of steps for which a chain of references is followed. -/
def maxSteps : Nat := 32

/-- Whether the condition with the given id holds. -/
def holds (table : ConditionTable) : Authority := fun id store =>
  table.holdsWithin store (maxSteps + 1) id

@[simp] theorem holdsWithin_zero (table : ConditionTable) (store : Store) (id : String) :
    table.holdsWithin store 0 id = false := rfl

theorem holdsWithin_of_absent {table : ConditionTable} {id : String} (h : table[id]? = none)
    (store : Store) (depth : Nat) : table.holdsWithin store depth id = false := by
  cases depth <;> simp [holdsWithin, h]

theorem holdsWithin_of_present {table : ConditionTable} {id : String} {c : Condition}
    (h : table[id]? = some c) (store : Store) (depth : Nat) :
    table.holdsWithin store (depth + 1) id = c.answer store (table.holdsWithin store depth) := by
  simp [holdsWithin, h]

theorem getElem?_add (table : ConditionTable) (c : Condition) (id : String) :
    (table.add c)[id]? = if c.id = id then some c else table[id]? := by
  simp [add, Std.ExtTreeMap.getElem?_insert]

end ConditionTable

end SetupWizard
