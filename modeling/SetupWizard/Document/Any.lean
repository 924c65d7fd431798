/-
# Any document

Whether a text is a document at all, whatever it holds.  Unlike a value that is passed over,
the values here are read in full, and they may be nested in each other to a limited depth only.
-/
import SetupWizard.Document.Format

namespace SetupWizard.Document

/-- The number of arrays and objects that may be nested in each other. -/
def maxNesting : Nat := 127

/-- Reads a value, given how the values inside it are read, if there may be any. -/
def readAround (inside? : Option (Reader Unit)) : Reader Unit := fun source =>
  match source.skipBlanks, inside? with
  | some '[' :: _, none => .error .malformed
  | some '{' :: _, none => .error .malformed
  | some '[' :: rest, some inside =>
    Reader.map (fun _ => ()) (elements inside (rest.length + 1) true) rest
  | some '{' :: rest, some inside =>
    entries (fun _ _ => Reader.afterColon inside) (rest.length + 1) true () rest
  | source, _ => Reader.map (fun _ => ()) readFound source

/-- Reads a value in which at most `depth` arrays and objects are nested. -/
def readAny : Nat → Reader Unit
  | 0 => readAround none
  | depth + 1 => readAround (some (readAny depth))

/-- Whether a text is a document. -/
def checkAny (s : String) : Except Fault Unit :=
  Reader.document (readAny maxNesting) (.ofString s)

end SetupWizard.Document
