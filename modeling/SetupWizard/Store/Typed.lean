/-
# Typed values

A variable holds a text.  Where a truth value or a whole number is wanted, the text is read
with the blanks around it removed; a variable that is not set, or whose text is no spelling of
the type, has the default value that the reader brings along.
-/
import SetupWizard.Store
import SetupWizard.Text.Blank
import SetupWizard.Decimal.Whole

namespace SetupWizard.Store

/-- The truth value that a text spells: `true` or `false`, in ASCII letters of either case. -/
def truth? (cs : List Char) : Option Bool :=
  let lower := cs.map Char.toLower
  if lower = "true".toList then some true
  else if lower = "false".toList then some false
  else none

/-- The truth value of a variable. -/
def getBool (store : Store) (name : String) (default : Bool) : Bool :=
  ((store.get? name).bind fun value => truth? (Text.trim value.toList)).getD default

/-- The whole number that a variable holds, if it lies in the range. -/
def getWhole (range : Decimal.Range) (store : Store) (name : String) (default : Int) : Int :=
  ((store.get? name).bind fun value => range.read? (Text.trim value.toList)).getD default

/-- The number of at most 32 bits that a variable holds. -/
def getInt (store : Store) (name : String) (default : Int) : Int :=
  store.getWhole .word32 name default

/-- The number of at most 64 bits that a variable holds. -/
def getLong (store : Store) (name : String) (default : Int) : Int :=
  store.getWhole .word64 name default

theorem getBool_of_unset {s : Store} {n : String} (h : s.get? n = none) (d : Bool) :
    s.getBool n d = d := by
  simp [getBool, h]

theorem getWhole_of_unset {s : Store} {n : String} (h : s.get? n = none)
    (range : Decimal.Range) (d : Int) : s.getWhole range n d = d := by
  simp [getWhole, h]

end SetupWizard.Store
