/-
# Files with definitions

A definition is kept in a file as the text of a document.  Loading it fails where the file
cannot be read or holds no text, and where the text is not the document of a definition.
-/
import SetupWizard.Definition
import SetupWizard.Text.Quoted

namespace SetupWizard.Definition

/-- Why a definition cannot be loaded. -/
inductive LoadError where
  /-- The file cannot be read as a text. -/
  | unreadable (path reason : String)
  /-- The text is not the document of a definition. -/
  | unparsable (fault : Document.Fault)
deriving DecidableEq

namespace LoadError

/-- The wording of an error and of what lies behind it, outermost first. -/
def chain : LoadError → List String
  | .unreadable path reason => ["Failed to read definition from " ++ Text.quoted path, reason]
  | .unparsable fault => ["Failed to parse definition JSON", fault.message]

end LoadError

/-- What is said of a file whose bytes are no text. -/
def notText : String := "stream did not contain valid UTF-8"

/-- Reads a definition from a text. -/
def parse (text : String) : Except LoadError Definition :=
  match read text with
  | .ok d => .ok d
  | .error fault => .error (.unparsable fault)

/-- Reads a definition from the content of a file, or from the reason why there is none. -/
def load (path : String) (content : Except String ByteArray) : Except LoadError Definition :=
  match content with
  | .error reason => .error (.unreadable path reason)
  | .ok bytes =>
    match String.fromUTF8? bytes with
    | some text => parse text
    | none => .error (.unreadable path notText)

/-- The wording for a definition that cannot be written, outermost first. -/
def saveErrorChain (path reason : String) : List String :=
  ["Failed to write definition to " ++ Text.quoted path, reason]

end SetupWizard.Definition
