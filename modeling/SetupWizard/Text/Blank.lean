/-
# Blank characters

The values of variables are typed by people and by scripts, so they are read with the
blanks around them removed.  Blank is what Unicode calls white space: twenty-five
characters, most of them outside ASCII.  This file sets up the table of these characters
and the two operations on it, trimming a text and asking whether it is blank throughout.
-/
namespace SetupWizard.Text

/-- The first and the last of each run of consecutive white-space characters. -/
def blankRanges : List (Nat × Nat) :=
  [(0x09, 0x0D), (0x20, 0x20), (0x85, 0x85), (0xA0, 0xA0), (0x1680, 0x1680),
   (0x2000, 0x200A), (0x2028, 0x2029), (0x202F, 0x202F), (0x205F, 0x205F), (0x3000, 0x3000)]

/-- A white-space character. -/
def isBlank (c : Char) : Bool :=
  blankRanges.any fun range => range.1 ≤ c.toNat && c.toNat ≤ range.2

/-- The characters of a text without the blanks at either end. -/
def trim (cs : List Char) : List Char :=
  ((cs.dropWhile isBlank).reverse.dropWhile isBlank).reverse

/-- A text that holds no character other than blanks. -/
def isBlankText (s : String) : Bool :=
  (trim s.toList).isEmpty

-- The characters in the table, counted range by range.
example : blankRanges.foldl (fun count range => count + (range.2 + 1 - range.1)) 0 = 25 := by
  decide

@[simp] theorem trim_nil : trim [] = [] := rfl

end SetupWizard.Text
