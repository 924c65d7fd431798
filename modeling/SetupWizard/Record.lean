/-
# Records of installations

The record of an installation lists the panels that were visited, in order, with the data that
each of them contributed.  It is written as a document at the end of a run, and an unattended
run takes its answers from such a document.
-/
import SetupWizard.Store
import SetupWizard.Document.Record
import SetupWizard.Failure

namespace SetupWizard

/-- A visited panel and its data. -/
structure PanelRecord where
  /-- The id of the panel. -/
  panel : String
  /-- What the panel contributed, by variable. -/
  data : Texts := ∅
deriving DecidableEq

namespace PanelRecord

open Document in
/-- The format of one visited panel. -/
def format : Format PanelRecord :=
  .via
    (.record "PanelRecord"
      (.field "panel" .text none (.field "data" .texts (some ∅) .done)))
    (fun (panel, data, ()) => { panel, data })
    (fun r => (r.panel, r.data, ()))

/-- The format of the record of an installation. -/
def listFormat : Document.Format (List PanelRecord) := .list format

/-- The record of an installation as the lines of a document. -/
def renderList (records : List PanelRecord) : String := listFormat.render records

/-- Reads the record of an installation. -/
def readList (source : Document.Source) : Except Failure (List PanelRecord) :=
  match listFormat.readSource source with
  | .ok records => .ok records
  | .error fault => .error (.document (.unreadable fault))

/-- Reads the record of an installation from the bytes of a file. -/
def readBytes (bytes : ByteArray) : Except Failure (List PanelRecord) :=
  match String.fromUTF8? bytes with
  | some text => readList (.ofString text)
  | none => readList (.ofBytes bytes.toList)

end PanelRecord

end SetupWizard
