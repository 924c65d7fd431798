/-
# Failures

What can go wrong while a wizard runs, as opposed to what merely does not move it: derived
variables that cannot be brought up to date, views that cannot be made, references to panels
and validators that do not exist, and records that cannot be read or written.
-/
import SetupWizard.Derivation
import SetupWizard.Document.Fault

namespace SetupWizard

/-- Why a document could not be read or written. -/
inductive DocumentError where
  /-- The text is not a document of the wanted form. -/
  | unreadable (fault : Document.Fault)
  /-- The device did not take the text. -/
  | unwritable (reason : String)
deriving DecidableEq

/-- The wording of a document error. -/
def DocumentError.message : DocumentError → String
  | .unreadable fault => fault.message
  | .unwritable reason => reason

/-- Why a wizard cannot go on. -/
inductive Failure where
  /-- A file or a device failed. -/
  | io (text : String)
  /-- A document could not be read or written. -/
  | document (e : DocumentError)
  /-- The derived variables could not be brought up to date. -/
  | refresh (e : RefreshError)
  /-- There is no panel at a position. -/
  | panelIndex (index size : Nat)
  /-- The view of a panel could not be made. -/
  | panelView (panel reason : String)
  /-- A panel names a validator that does not exist. -/
  | unknownValidator (panel validator : String)
  /-- The record of the installation could not be written. -/
  | record (text : String)
deriving DecidableEq

namespace Failure

/-- The wording of a failure. -/
def message : Failure → String
  | .io text => "IO error: " ++ text
  | .document e => "JSON error: " ++ e.message
  | .refresh e => e.message
  | .panelIndex index size =>
    "No panel at index " ++ toString index ++ " (registry holds " ++ toString size ++ ")"
  | .panelView panel reason => "Cannot create view for panel '" ++ panel ++ "': " ++ reason
  | .unknownValidator panel validator =>
    "Panel '" ++ panel ++ "' references unknown validator '" ++ validator ++ "'"
  | .record text => "Record error: " ++ text

/-- The wording of a failure and of what lies behind it, outermost first. -/
def chain : Failure → List String
  | .io text => ["IO error: " ++ text, text]
  | .document e => ["JSON error: " ++ e.message, e.message]
  | .refresh e => e.chain
  | failure => [failure.message]

/-- Whether the failure must end the installation. -/
def isFatal : Failure → Bool
  | .refresh e => e.isFatal
  | _ => false

end Failure

/-- The wordings of an error and of what lies behind it, as one line. -/
def joinChain (texts : List String) : String := String.intercalate ": " texts

end SetupWizard
