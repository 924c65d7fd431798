/-
# Formats

A format says how the values of a type are written in a document and how they are read back.
Documents are written with every element of an array and every entry of an object on a line of
its own, indented by two blanks for each level of nesting; they are read whatever their layout.
The file sets up the formats of texts, truth values, optional values, lists and texts by name;
records are the subject of `SetupWizard.Document.Record`.
-/
import SetupWizard.Document.Quotation
import SetupWizard.Document.Number
import Std.Data.ExtTreeMap

namespace SetupWizard.Document

/-- How the values of a type are written and read. -/
structure Format (α : Type) where
  /-- A value at a level of nesting, as it is written. -/
  write : Nat → α → List Char
  /-- Takes a value off the front of a source. -/
  read : Reader α

/-! ### Values of the wrong type -/

/-- Reads the value at the front of a source as far as needed to name it. -/
def readFound : Reader Found := fun source =>
  let named (found : Found) (result : Except Fault (Unit × Source)) :
      Except Fault (Found × Source) :=
    match result with
    | .ok (_, rest) => .ok (found, rest)
    | .error fault => .error fault
  match source.skipBlanks with
  | [] => .error .truncated
  | some 'n' :: rest => named .null (Reader.word "ull".toList rest)
  | some 't' :: rest => named (.boolean true) (Reader.word "rue".toList rest)
  | some 'f' :: rest => named (.boolean false) (Reader.word "alse".toList rest)
  | some '"' :: rest => Reader.map Found.text Quotation.read rest
  | some '[' :: rest => .ok (.sequence, rest)
  | some '{' :: rest => .ok (.map, rest)
  | s :: rest => if Number.begins s then Number.read (s :: rest) else .error .malformed

/-- The fault of a source whose next value is not of the wanted type. -/
def unsuitable {α : Type} (wanted : String) : Reader α := fun source =>
  match readFound source with
  | .ok (found, _) => .error (.unsuitable found wanted)
  | .error fault => .error fault

/-! ### Arrays and objects -/

/-- Reads the elements of an array up to its closing bracket; `first` says that none came
before, and the fuel bounds their number. -/
def elements {α : Type} (item : Reader α) : Nat → Bool → Reader (List α)
  | 0, _ => fun _ => .error .truncated
  | fuel + 1, first => fun source =>
    let next (source : Source) : Except Fault (List α × Source) :=
      match item source with
      | .error fault => .error fault
      | .ok (a, rest) =>
        match elements item fuel false rest with
        | .error fault => .error fault
        | .ok (as, rest) => .ok (a :: as, rest)
    match first, source.skipBlanks with
    | _, [] => .error .truncated
    | _, some ']' :: rest => .ok ([], rest)
    | true, source => next source
    | false, some ',' :: rest =>
      match Source.skipBlanks rest with
      | [] => .error .truncated
      | some ']' :: _ => .error .malformed
      | rest => next rest
    | false, _ => .error .malformed

/-- Reads the entries of an object up to its closing bracket.  What has been gathered so far is
handed to `entry` together with each key, before the mark behind the key is read. -/
def entries {σ : Type} (entry : String → σ → Reader σ) : Nat → Bool → σ → Reader σ
  | 0, _, _ => fun _ => .error .truncated
  | fuel + 1, first, gathered => fun source =>
    let next (source : Source) : Except Fault (σ × Source) :=
      match source with
      | some '"' :: rest =>
        match Quotation.read rest with
        | .error fault => .error fault
        | .ok (key, rest) =>
          match entry key gathered rest with
          | .error fault => .error fault
          | .ok (gathered, rest) => entries entry fuel false gathered rest
      | [] => .error .truncated
      | _ => .error .malformed
    match first, source.skipBlanks with
    | _, [] => .error .truncated
    | _, some '}' :: rest => .ok (gathered, rest)
    | true, source => next source
    | false, some ',' :: rest => next (Source.skipBlanks rest)
    | false, _ => .error .malformed

/-- The blanks in front of a line. -/
def indent (depth : Nat) : List Char := List.replicate (2 * depth) ' '

/-- The lines of an array or an object at a level of nesting: the brackets are given, and what
stands between them. -/
def writeLines (opening closing : Char) (depth : Nat) : List (List Char) → List Char
  | [] => [opening, closing]
  | line :: lines =>
    opening :: '\n' :: (indent (depth + 1) ++ line ++
      (lines.flatMap fun line => ',' :: '\n' :: (indent (depth + 1) ++ line)) ++
      '\n' :: (indent depth ++ [closing]))

/-- An entry of an object, as it is written. -/
def writeEntry (key : String) (value : List Char) : List Char :=
  Quotation.write key ++ ':' :: ' ' :: value

namespace Format

/-- Texts. -/
def text : Format String where
  write _ s := Quotation.write s
  read source :=
    match source.skipBlanks with
    | some '"' :: rest => Quotation.read rest
    | source => unsuitable "a string" source

/-- Truth values. -/
def flag : Format Bool where
  write _ b := if b then "true".toList else "false".toList
  read source :=
    match source.skipBlanks with
    | some 't' :: rest => Reader.map (fun _ => true) (Reader.word "rue".toList) rest
    | some 'f' :: rest => Reader.map (fun _ => false) (Reader.word "alse".toList) rest
    | source => unsuitable "a boolean" source

/-- Values that may be absent, which is written `null`. -/
def optional {α : Type} (format : Format α) : Format (Option α) where
  write depth
    | none => "null".toList
    | some a => format.write depth a
  read source :=
    match source.skipBlanks with
    | some 'n' :: rest => Reader.map (fun _ => none) (Reader.word "ull".toList) rest
    | source => Reader.map some format.read source

/-- Lists. -/
def list {α : Type} (format : Format α) : Format (List α) where
  write depth as := writeLines '[' ']' depth (as.map (format.write (depth + 1)))
  read source :=
    match source.skipBlanks with
    | some '[' :: rest => elements format.read (rest.length + 1) true rest
    | source => unsuitable "a sequence" source

/-- Texts by name; of two texts with one name the later counts. -/
def texts : Format (Std.ExtTreeMap String String) where
  write depth map :=
    writeLines '{' '}' depth (map.toList.map fun pair => writeEntry pair.1 (text.write 0 pair.2))
  read source :=
    match source.skipBlanks with
    | some '{' :: rest =>
      entries (fun key map => Reader.afterColon (Reader.map (map.insert key) text.read))
        (rest.length + 1) true ∅ rest
    | source => unsuitable "a map" source

/-- The values of another type that stand for those of this one. -/
def via {α β : Type} (format : Format α) (decode : α → β) (encode : β → α) : Format β where
  write depth b := format.write depth (encode b)
  read := Reader.map decode format.read

/-- A value as a whole document. -/
def render {α : Type} (format : Format α) (a : α) : String := String.ofList (format.write 0 a)

/-- Reads a whole document. -/
def readSource {α : Type} (format : Format α) (source : Source) : Except Fault α :=
  Reader.document format.read source

/-- Reads a text as a whole document. -/
def readString {α : Type} (format : Format α) (s : String) : Except Fault α :=
  format.readSource (.ofString s)

end Format

end SetupWizard.Document
