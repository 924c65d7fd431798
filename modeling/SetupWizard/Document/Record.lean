/-
# Records

A record is written as an object with all its fields in the order of their declaration.  It is
read from an object with fields in any order, among them fields that mean nothing here, or from
an array of its fields in order.  A field that is not given takes its default, if it has one.

The fields of a record form a list that is indexed by the list of their types, so that the
values of all fields together are a tuple, and a format for records is one for such tuples.
-/
import SetupWizard.Document.Format
import SetupWizard.Document.Skip

namespace SetupWizard.Document

/-- Values of the given types, one of each. -/
def Row : List Type → Type
  | [] => Unit
  | α :: types => α × Row types

/-- What has been read of the fields of a record. -/
def Draft : List Type → Type
  | [] => Unit
  | α :: types => Option α × Draft types

/-- The fields of a record: name, format and default. -/
inductive Fields : List Type → Type 1 where
  /-- No more fields. -/
  | done : Fields []
  /-- A field and those behind it. -/
  | field {α : Type} {types : List Type} (name : String) (format : Format α)
      (default? : Option α) (more : Fields types) : Fields (α :: types)

/-- What the key of an entry means for the fields that have been read. -/
inductive Offer (σ : Type) where
  /-- The record has no field of this name. -/
  | unknown
  /-- The field has been given before. -/
  | repeated
  /-- The field is new, and this is how its value is read. -/
  | fresh (read : Reader σ)

namespace Offer

/-- An offer for a part, as one for the whole. -/
def map {σ τ : Type} (f : σ → τ) : Offer σ → Offer τ
  | .unknown => .unknown
  | .repeated => .repeated
  | .fresh read => .fresh (Reader.map f read)

end Offer

namespace Fields

/-- The number of fields. -/
def count {types : List Type} : Fields types → Nat
  | .done => 0
  | .field _ _ _ more => more.count + 1

/-- The entries of an object, as they are written. -/
def writeEntries (depth : Nat) {types : List Type} : Fields types → Row types → List (List Char)
  | .done, _ => []
  | .field name format _ more, (a, row) =>
    writeEntry name (format.write depth a) :: more.writeEntries depth row

/-- The draft in which no field is given. -/
def blank {types : List Type} : Fields types → Draft types
  | .done => ()
  | .field _ _ _ more => (none, more.blank)

/-- What a key means for a draft. -/
def offer (key : String) {types : List Type} : Fields types → Draft types → Offer (Draft types)
  | .done, _ => .unknown
  | .field name format _ more, (given, draft) =>
    if key = name then
      match given with
      | some _ => .repeated
      | none => .fresh (Reader.map (fun a => (some a, draft)) format.read)
    else (more.offer key draft).map fun draft => (given, draft)

/-- The values of all fields, with defaults for those that are not given. -/
def finish {types : List Type} : Fields types → Draft types → Except Fault (Row types)
  | .done, _ => .ok ()
  | .field name _ default? more, (given, draft) =>
    match given.or default? with
    | none => .error (.missing name)
    | some a =>
      match more.finish draft with
      | .ok row => .ok (a, row)
      | .error fault => .error fault

/-- Reads the entry of an object behind its key. -/
def readEntry {types : List Type} (fields : Fields types) (key : String)
    (draft : Draft types) : Reader (Draft types) :=
  match fields.offer key draft with
  | .unknown => Reader.afterColon fun source =>
    match skipValue source with
    | .ok rest => .ok (draft, rest)
    | .error fault => .error fault
  | .repeated => fun _ => .error (.duplicated key)
  | .fresh read => Reader.afterColon read

/-- Reads the record from an object, behind the opening bracket. -/
def readObject {types : List Type} (fields : Fields types) : Reader (Row types) := fun source =>
  match entries fields.readEntry (source.length + 1) true fields.blank source with
  | .error fault => .error fault
  | .ok (draft, rest) =>
    match fields.finish draft with
    | .ok row => .ok (row, rest)
    | .error fault => .error fault

/-- Reads the fields of a record from an array in which `read` elements have been read. -/
def readElements (wanted : String) {types : List Type} :
    Fields types → Nat → Reader (Row types)
  | .done, _ => fun source =>
    match source.skipBlanks with
    | [] => .error .truncated
    | some ']' :: rest => .ok ((), rest)
    | _ => .error .malformed
  | .field _ format default? more, read => fun source =>
    let next (source : Source) : Except Fault (Row (_ :: _) × Source) :=
      match format.read source with
      | .error fault => .error fault
      | .ok (a, rest) => Reader.map (fun row => (a, row)) (readElements wanted more (read + 1)) rest
    match read, source.skipBlanks with
    | _, [] => .error .truncated
    | _, some ']' :: rest =>
      match default? with
      | none => .error (.short read wanted)
      | some a => Reader.map (fun row => (a, row)) (readElements wanted more (read + 1))
        (some ']' :: rest)
    | 0, source => next source
    | _ + 1, some ',' :: rest =>
      match Source.skipBlanks rest with
      | [] => .error .truncated
      | some ']' :: _ => .error .malformed
      | rest => next rest
    | _ + 1, _ => .error .malformed

end Fields

/-- The format of records with the given name and fields. -/
def Format.record (name : String) {types : List Type} (fields : Fields types) :
    Format (Row types) where
  write depth row := writeLines '{' '}' depth (fields.writeEntries (depth + 1) row)
  read source :=
    match source.skipBlanks with
    | some '{' :: rest => fields.readObject rest
    | some '[' :: rest =>
      let wanted :=
        "struct " ++ name ++ " with " ++ toString fields.count ++ " elements"
      fields.readElements wanted 0 rest
    | source => unsuitable ("struct " ++ name) source

end SetupWizard.Document
