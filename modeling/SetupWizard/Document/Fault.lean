/-
# What is wrong with a document

A document is read in one pass and the first fault ends the reading.  There are three kinds:
the text breaks the grammar, the text ends too early, or what it holds does not suit what it is
read as.  Only faults of the last kind have a wording.
-/
import SetupWizard.Decimal.Shortest
import SetupWizard.Text.Quoted

namespace SetupWizard.Document

/-- A value that stands in a document where another kind of value is wanted. -/
inductive Found where
  /-- The word `null`. -/
  | null
  /-- A truth value. -/
  | boolean (value : Bool)
  /-- A whole number of 64 bits. -/
  | integer (value : Int)
  /-- Any other number. -/
  | floating (value : Decimal.Binary64)
  /-- A text. -/
  | text (value : String)
  /-- The beginning of an array. -/
  | sequence
  /-- The beginning of an object. -/
  | map
deriving DecidableEq

/-- Why a document cannot be read. -/
inductive Fault where
  /-- The text breaks the grammar. -/
  | malformed
  /-- The text ends too early. -/
  | truncated
  /-- A value has the wrong type. -/
  | unsuitable (found : Found) (wanted : String)
  /-- A field of a record is given twice. -/
  | duplicated (field : String)
  /-- A field of a record is not given. -/
  | missing (field : String)
  /-- A record that is written as an array is too short. -/
  | short (length : Nat) (wanted : String)
deriving DecidableEq

/-- The three kinds of faults. -/
inductive Fault.Kind where
  /-- The text breaks the grammar. -/
  | grammar
  /-- The text ends too early. -/
  | ending
  /-- The text does not suit what it is read as. -/
  | content
deriving DecidableEq

/-- Numbers in messages go without an exponent from a hundred thousandth up to the sixteen
digits before the point, and a positive exponent has a plus. -/
def Found.layout : Decimal.Layout := ⟨-5, 15, "+"⟩

/-- A text between backticks. -/
def ticked (text : String) : String := "`" ++ text ++ "`"

namespace Found

/-- How a value is named in a message. -/
def describe : Found → String
  | .null => "null"
  | .boolean value => "boolean " ++ ticked (if value then "true" else "false")
  | .integer value => "integer " ++ ticked (toString value)
  | .floating value => "floating point " ++ ticked (String.ofList (layout.writeBinary value))
  | .text value => "string " ++ Text.quoted value
  | .sequence => "sequence"
  | .map => "map"

end Found

namespace Fault

/-- The kind of a fault. -/
def kind : Fault → Kind
  | .malformed => .grammar
  | .truncated => .ending
  | _ => .content

/-- The wording of a fault. -/
def message : Fault → String
  | .malformed => "malformed document"
  | .truncated => "unexpected end of document"
  | .unsuitable found wanted => "invalid type: " ++ found.describe ++ ", expected " ++ wanted
  | .duplicated field => "duplicate field " ++ ticked field
  | .missing field => "missing field " ++ ticked field
  | .short length wanted => "invalid length " ++ toString length ++ ", expected " ++ wanted

end Fault

end SetupWizard.Document
