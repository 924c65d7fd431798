/-
# From a definition to a wizard

A definition that passes its check is turned into a wizard at the beginning of its run: the
declared variables are set, the conditions are put into a table and the declared validators
into a catalogue.
-/
import SetupWizard.Definition.Check
import SetupWizard.Wizard

namespace SetupWizard

namespace Requirement

/-- The required variables that are not filled in. -/
def missing (r : Requirement) (store : Store) : List String :=
  r.required.filter fun name => (store.get? name).all Text.isBlankText

/-- The wording for variables that are not filled in. -/
def complaint (names : List String) : String :=
  "missing required variable(s): " ++ String.intercalate ", " names

/-- What the declared validator makes of a store. -/
def judge (r : Requirement) (store : Store) : Finding :=
  match r.missing store with
  | [] => .passed
  | names => if r.warnOnly then .warned (complaint names) else .rejected (complaint names)

/-- The declared validators by id, the later ones put in last. -/
def catalog (rs : List Requirement) : Catalog :=
  rs.foldl (fun known r => known.insert r.id fun _ store => r.judge store) ∅

end Requirement

namespace Definition

/-- The environment at the beginning of a run. -/
def environment (d : Definition) : Environment where
  store := .ofList d.initial.toList
  derivations := d.derivations
  conditions := ConditionTable.holds (.ofConditions d.conditions)

/-- The declared validators by id. -/
def catalog (d : Definition) : Catalog := Requirement.catalog d.requirements

/-- The wizard at the beginning of a run. -/
def wizard {σ : Type} (d : Definition) : Wizard σ := .ofPanels d.panels d.environment

/-- The wizard at the beginning of a run, if the definition passes its check. -/
def build {σ : Type} (d : Definition) : Except Defect (Wizard σ) :=
  match d.check with
  | .ok () => .ok d.wizard
  | .error defect => .error defect

end Definition

end SetupWizard
