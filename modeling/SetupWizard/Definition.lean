/-
# Definitions

A definition declares a whole installer: the variables it starts with, its conditions, the
derivations of variables, the validators and the panels in order.  It is kept as a document,
and the formats of all its parts are set up here.  The flags that a run leaves on derivations
and panels are no part of a document.
-/
import SetupWizard.Derivation
import SetupWizard.Panel
import SetupWizard.Document.Record
import SetupWizard.Text.Blank

namespace SetupWizard

/-- A validator that is declared rather than programmed: some variables must be filled in. -/
structure Requirement where
  /-- The name under which panels refer to it. -/
  id : String
  /-- The variables that must be set to something other than blanks. -/
  required : List String := []
  /-- Whether missing variables are only worth a warning. -/
  warnOnly : Bool := false
deriving DecidableEq, Inhabited

/-- An installer as it is declared. -/
structure Definition where
  /-- The variables with which a run begins. -/
  initial : Texts := ∅
  /-- The conditions. -/
  conditions : List Condition := []
  /-- The derivations of variables. -/
  derivations : List Derivation := []
  /-- The declared validators. -/
  requirements : List Requirement := []
  /-- The panels in order. -/
  panels : List Panel
deriving DecidableEq

/-! ### Formats -/

open Document

/-- The format of a condition. -/
def Condition.format : Format Condition :=
  .via
    (.record "Condition"
      (.field "id" .text none
        (.field "variable" (.optional .text) (some none)
          (.field "equals" (.optional .text) (some none)
            (.field "not_equals" (.optional .text) (some none)
              (.field "defined" (.optional .flag) (some none)
                (.field "all" (.list .text) (some [])
                  (.field "any" (.list .text) (some [])
                    (.field "negate" .flag (some false) .done)))))))))
    (fun (id, subject?, equals?, differs?, defined?, all, any, negate, ()) =>
      { id, subject?, equals?, differs?, defined?, all, any, negate })
    (fun c => (c.id, c.subject?, c.equals?, c.differs?, c.defined?, c.all, c.any, c.negate, ()))

/-- The format of a derivation. -/
def Derivation.format : Format Derivation :=
  .via
    (.record "DynamicVariableDef"
      (.field "name" .text none
        (.field "value" .text none
          (.field "condition" (.optional .text) (some none)
            (.field "checkonce" .flag (some false)
              (.field "unset" .flag (some true)
                (.field "ignore_failure" .flag (some false) .done)))))))
    (fun (name, expression, condition?, oneShot, autoUnset, ignoreFailure, ()) =>
      { name, expression, condition?, oneShot, autoUnset, ignoreFailure })
    (fun d =>
      (d.name, d.expression, d.condition?, d.oneShot, d.autoUnset, d.ignoreFailure, ()))

/-- The format of a panel. -/
def Panel.format : Format Panel :=
  .via
    (.record "PanelDescriptor"
      (.field "id" .text none
        (.field "class" .text none
          (.field "visible" .flag (some true)
            (.field "condition" (.optional .text) (some none)
              (.field "validators" (.list .text) (some []) .done))))))
    (fun (id, className, visible, condition?, validators, ()) =>
      { id, className, visible, condition?, validators })
    (fun p => (p.id, p.className, p.visible, p.condition?, p.validators, ()))

/-- The format of a declared validator. -/
def Requirement.format : Format Requirement :=
  .via
    (.record "ValidatorSpec"
      (.field "id" .text none
        (.field "required" (.list .text) (some [])
          (.field "warn_only" .flag (some false) .done))))
    (fun (id, required, warnOnly, ()) => { id, required, warnOnly })
    (fun r => (r.id, r.required, r.warnOnly, ()))

namespace Definition

/-- The format of a definition. -/
def format : Format Definition :=
  .via
    (.record "InstallDefinition"
      (.field "variables" .texts (some ∅)
        (.field "conditions" (.list Condition.format) (some [])
          (.field "dynamic_variables" (.list Derivation.format) (some [])
            (.field "validators" (.list Requirement.format) (some [])
              (.field "panels" (.list Panel.format) none .done))))))
    (fun (initial, conditions, derivations, requirements, panels, ()) =>
      { initial, conditions, derivations, requirements, panels })
    (fun d => (d.initial, d.conditions, d.derivations, d.requirements, d.panels, ()))

/-- A definition as the text of a document. -/
def render (d : Definition) : String := format.render d

/-- Reads a definition from the text of a document. -/
def read (text : String) : Except Fault Definition := format.readString text

end Definition

end SetupWizard
