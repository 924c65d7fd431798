/-
# Descriptions of values

For diagnosis, stores, environments, panels and catalogues can be shown as text.  A value is
shown as the name of its type and its fields; two dots stand for what is not shown.
-/
import SetupWizard.Environment
import SetupWizard.Panel
import SetupWizard.Text.Quoted

namespace SetupWizard.Inspection

open Text

/-- A list of descriptions. -/
def list (texts : List String) : String := bracketed "[" "]" texts

/-- A set of descriptions. -/
def set (texts : List String) : String := bracketed "\x7b" "\x7d" texts

/-- A mapping from names to descriptions. -/
def mapping (pairs : List (String × String)) : String :=
  set (pairs.map fun pair => quoted pair.1 ++ ": " ++ pair.2)

/-- A value by the name of its type and its fields, of which there may be more. -/
def value (name : String) (fields : List (String × String)) (more : Bool) : String :=
  let shown := fields.map fun field => field.1 ++ ": " ++ field.2
  name ++ bracketed " \x7b " " \x7d" (if more then shown ++ [".."] else shown)

/-- A truth value. -/
def flag (b : Bool) : String := if b then "true" else "false"

/-- A text that may be absent. -/
def optionalText : Option String → String
  | none => "None"
  | some text => "Some(" ++ quoted text ++ ")"

/-- A store. -/
def store (s : Store) : String :=
  value "VariableStore"
    [("values", mapping (s.toList.map fun pair => (pair.1, quoted pair.2))),
      ("blocked", mapping (s.holds.toList.map fun entry =>
        (entry.1, set (entry.2.toList.map quoted))))] true

/-- A derivation. -/
def derivation (d : Derivation) : String :=
  value "DynamicVariableDef"
    [("name", quoted d.name), ("expression", quoted d.expression),
      ("condition", optionalText d.condition?), ("one_shot", flag d.oneShot),
      ("auto_unset", flag d.autoUnset), ("ignore_failure", flag d.ignoreFailure),
      ("evaluated", flag d.evaluated)] false

/-- The derivations of an environment, as the content of a lock that is never poisoned. -/
def derivations (ds : List Derivation) : String :=
  value "DynamicVariableSet"
    [("defs", value "Mutex" [("data", list (ds.map derivation)), ("poisoned", flag false)] true)]
    false

/-- An environment. -/
def environment (env : Environment) : String :=
  value "InstallEnvironment"
    [("variables", store env.store), ("dynamic", derivations env.derivations)] true

/-- A panel. -/
def panel (p : Panel) : String :=
  value "PanelDescriptor"
    [("id", quoted p.id), ("class_name", quoted p.className), ("visible", flag p.visible),
      ("condition", optionalText p.condition?), ("validators", list (p.validators.map quoted)),
      ("visited", flag p.visited)] false

/-- A catalogue of validators, by their ids. -/
def catalog (c : Catalog) : String :=
  value "ValidatorCatalog" [("ids", list (c.keys.map quoted))] false

/-- The panels of a wizard with the catalogue of their validators. -/
def registry (panels : List Panel) (c : Catalog) : String :=
  value "PanelRegistry"
    [("descriptors", list (panels.map panel)), ("validators", catalog c)] true

end SetupWizard.Inspection
