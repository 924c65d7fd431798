/-
# Checking a definition

A definition is sound when its ids are filled in and distinct and when every reference in it
leads to something that it declares.  The check goes through the definition in a fixed order
and reports the first defect it meets.
-/
import SetupWizard.Definition

namespace SetupWizard.Definition

/-- What can be wrong with a definition. -/
inductive Defect where
  /-- There is no panel. -/
  | noPanels
  /-- The id of a panel is blank. -/
  | blankPanelId
  /-- Two panels have one id. -/
  | duplicatePanel (id : String)
  /-- The id of a condition is blank. -/
  | blankConditionId
  /-- Two conditions have one id. -/
  | duplicateCondition (id : String)
  /-- A condition refers to a condition that is not declared. -/
  | conditionReference (id missing : String)
  /-- The name of a derived variable is blank. -/
  | blankDerivationName
  /-- A derivation refers to a condition that is not declared. -/
  | derivationCondition (name missing : String)
  /-- A panel refers to a condition that is not declared. -/
  | panelCondition (id missing : String)
  /-- A panel refers to a validator that is not declared. -/
  | panelValidator (id missing : String)
deriving DecidableEq

namespace Defect

/-- The wording of a defect. -/
def message : Defect → String
  | .noPanels => "Definition must declare at least one panel"
  | .blankPanelId => "Panel id must not be empty"
  | .duplicatePanel id => "Duplicate panel id '" ++ id ++ "'"
  | .blankConditionId => "Condition id must not be empty"
  | .duplicateCondition id => "Duplicate condition id '" ++ id ++ "'"
  | .conditionReference id missing =>
    "Condition '" ++ id ++ "' refers to unknown condition '" ++ missing ++ "'"
  | .blankDerivationName => "Dynamic variable name must not be empty"
  | .derivationCondition name missing =>
    "Dynamic variable '" ++ name ++ "' refers to unknown condition '" ++ missing ++ "'"
  | .panelCondition id missing =>
    "Panel '" ++ id ++ "' refers to unknown condition '" ++ missing ++ "'"
  | .panelValidator id missing =>
    "Panel '" ++ id ++ "' refers to unknown validator '" ++ missing ++ "'"

end Defect

/-- The first defect of a list of ids that must be filled in and distinct from each other and
from those in `seen`. -/
def idDefect? (blank : Defect) (duplicate : String → Defect) :
    List String → List String → Option Defect
  | _, [] => none
  | seen, id :: ids =>
    if Text.isBlankText id then some blank
    else if id ∈ seen then some (duplicate id)
    else idDefect? blank duplicate (id :: seen) ids

/-- The first reference that leads nowhere. -/
def dangling? (declared references : List String) : Option String :=
  references.find? fun id => decide (id ∉ declared)

/-- The ids of the conditions. -/
def conditionIds (d : Definition) : List String := d.conditions.map Condition.id

/-- The ids of the declared validators. -/
def requirementIds (d : Definition) : List String := d.requirements.map Requirement.id

/-- The defect of a condition. -/
def conditionDefect? (d : Definition) (c : Condition) : Option Defect :=
  (dangling? d.conditionIds c.references).map (.conditionReference c.id)

/-- The defect of a derivation. -/
def derivationDefect? (d : Definition) (r : Derivation) : Option Defect :=
  if Text.isBlankText r.name then some .blankDerivationName
  else (dangling? d.conditionIds r.condition?.toList).map (.derivationCondition r.name)

/-- The defect of a panel. -/
def panelDefect? (d : Definition) (p : Panel) : Option Defect :=
  match dangling? d.conditionIds p.condition?.toList with
  | some missing => some (.panelCondition p.id missing)
  | none => (dangling? d.requirementIds p.validators).map (.panelValidator p.id)

/-- The first defect of a definition. -/
def defect? (d : Definition) : Option Defect :=
  if d.panels.isEmpty then some .noPanels
  else
    (idDefect? .blankPanelId .duplicatePanel [] (d.panels.map Panel.id)).or <|
    (idDefect? .blankConditionId .duplicateCondition [] d.conditionIds).or <|
    (d.conditions.findSome? d.conditionDefect?).or <|
    (d.derivations.findSome? d.derivationDefect?).or <|
    d.panels.findSome? d.panelDefect?

/-- Checks a definition. -/
def check (d : Definition) : Except Defect Unit :=
  match d.defect? with
  | none => .ok ()
  | some defect => .error defect

theorem check_eq_ok_iff {d : Definition} : d.check = .ok () ↔ d.defect? = none := by
  unfold check
  split <;> simp_all

end SetupWizard.Definition
