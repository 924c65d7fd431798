/-
# Sources

What is read is a sequence of symbols: the characters of a text, or the characters that a
sequence of bytes encodes, with a place for each byte that belongs to no character.  A reader
takes a value off the front of a source and leaves the rest.  The file sets up these notions
and the readers for blanks, words and marks from which the others are built.
-/
import SetupWizard.Document.Fault

namespace SetupWizard.Document

/-- A character, or a byte that belongs to none. -/
abbrev Symbol := Option Char

/-- What is left to be read. -/
abbrev Source := List Symbol

/-- Takes a value off the front of a source. -/
abbrev Reader (α : Type) := Source → Except Fault (α × Source)

namespace Source

/-- A text as a source. -/
def ofChars (cs : List Char) : Source := cs.map some

/-- A text as a source. -/
def ofString (s : String) : Source := ofChars s.toList

/-- The last six bits of a byte that continues a character. -/
def continuation? (b : UInt8) : Option Nat :=
  if b.toNat / 64 = 2 then some (b.toNat % 64) else none

/-- The bits of a continuing byte behind those in front of it. -/
def continued (high : Nat) (b : UInt8) : Option Nat :=
  (continuation? b).map fun low => high * 64 + low

/-- A character with the given number, if there is one and it is not less than `least`, which
rules out encodings that are longer than needed. -/
def charFrom (least n : Nat) : Option Char :=
  if least ≤ n ∧ n.isValidChar then some (Char.ofNat n) else none

/-- The character that begins with a byte, and the number of bytes behind it that belong to
it too. -/
def leadChar (b : UInt8) (rest : List UInt8) : Option (Char × Nat) :=
  let n := b.toNat
  if n < 0x80 then (charFrom 0 n).map (·, 0)
  else match rest with
    | b₁ :: rest =>
      if n / 32 = 6 then ((continued (n % 32) b₁).bind (charFrom 0x80)).map (·, 1)
      else match rest with
        | b₂ :: rest =>
          if n / 16 = 14 then
            (((continued (n % 16) b₁).bind (continued · b₂)).bind (charFrom 0x800)).map (·, 2)
          else match rest with
            | b₃ :: _ =>
              if n / 8 = 30 then
                ((((continued (n % 8) b₁).bind (continued · b₂)).bind (continued · b₃)).bind
                  (charFrom 0x10000)).map (·, 3)
              else none
            | [] => none
        | [] => none
    | [] => none

/-- A sequence of bytes as a source. -/
def ofBytes : List UInt8 → Source
  | [] => []
  | b :: rest =>
    match leadChar b rest with
    | some (c, more) => some c :: ofBytes (rest.drop more)
    | none => none :: ofBytes rest
termination_by bytes => bytes.length
decreasing_by
  · simp only [List.length_drop, List.length_cons]; omega
  · simp

/-- The text of a source, if every byte belongs to a character. -/
def text? (source : Source) : Option String :=
  (source.mapM id).map String.ofList

/-- Whether a symbol may stand between the parts of a document. -/
def isBlank (s : Symbol) : Bool :=
  s == some ' ' || s == some '\n' || s == some '\t' || s == some '\r'

/-- The source from the first symbol that is not blank. -/
def skipBlanks (source : Source) : Source := source.dropWhile isBlank

@[simp] theorem ofChars_nil : ofChars [] = [] := rfl

@[simp] theorem ofChars_cons (c : Char) (cs : List Char) :
    ofChars (c :: cs) = some c :: ofChars cs := rfl

@[simp] theorem ofChars_append (as bs : List Char) :
    ofChars (as ++ bs) = ofChars as ++ ofChars bs := by
  simp [ofChars]

theorem skipBlanks_cons_of_not_blank {s : Symbol} (h : isBlank s = false) (source : Source) :
    skipBlanks (s :: source) = s :: source := by
  simp [skipBlanks, h]

@[simp] theorem skipBlanks_cons_of_blank {s : Symbol} (h : isBlank s = true) (source : Source) :
    skipBlanks (s :: source) = skipBlanks source := by
  simp [skipBlanks, h]

end Source

namespace Reader

/-- Reads the given characters one by one. -/
def word : List Char → Reader Unit
  | [], source => .ok ((), source)
  | _ :: _, [] => .error .truncated
  | c :: cs, s :: source => if s = some c then word cs source else .error .malformed

/-- Reads the mark between the key and the value of an entry, and whatever follows it. -/
def afterColon {α : Type} (value : Reader α) : Reader α := fun source =>
  match source.skipBlanks with
  | some ':' :: rest => value rest
  | [] => .error .truncated
  | _ => .error .malformed

/-- Changes the value that is read. -/
def map {α β : Type} (f : α → β) (reader : Reader α) : Reader β := fun source =>
  match reader source with
  | .ok (a, rest) => .ok (f a, rest)
  | .error fault => .error fault

/-- Reads a whole document: one value with nothing but blanks around it. -/
def document {α : Type} (reader : Reader α) (source : Source) : Except Fault α :=
  match reader source with
  | .ok (a, rest) => if rest.skipBlanks = [] then .ok a else .error .malformed
  | .error fault => .error fault

end Reader

end SetupWizard.Document
