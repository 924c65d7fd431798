/-
# Records are read as they are written

A record is written field by field, and reading an object gathers its entries into a draft.  What
one field hands to those behind it leaves their part of the draft alone, so that the entries are
gathered one after the other into the draft in which all fields are given.  No default is needed
for it.  That the fields have different names is all that this takes.
-/
import Mathlib.Tactic.Lemma
import SetupWizard.Document.Record
import SetupWizard.Proofs.Document.Format

namespace SetupWizard.Document

open Source (ofChars)

variable {α : Type} {types : List Type}

/-- The draft in which all fields are given. -/
def Row.given : {types : List Type} → Row types → Draft types
  | [], _ => ()
  | _ :: _, (a, row) => (some a, Row.given row)

namespace Fields

/-- The names of the fields. -/
def names {types : List Type} : Fields types → List String
  | .done => []
  | .field name _ _ more => name :: more.names

/-- The names of the fields with their written values. -/
def pairs (depth : Nat) {types : List Type} :
    Fields types → Row types → List (String × List Char)
  | .done, _ => []
  | .field name format _ more, (a, row) => (name, format.write depth a) :: more.pairs depth row

/-- The format of each field is faithful to its value. -/
def Faithful {types : List Type} : Fields types → Row types → Prop
  | .done, _ => True
  | .field _ format _ more, (a, row) => format.Faithful a ∧ more.Faithful row

lemma writeEntries_eq (depth : Nat) (fields : Fields types) (row : Row types) :
    fields.writeEntries depth row = writePairs (fields.pairs depth row) := by
  induction fields with
  | done => rfl
  | field name format default? more ih =>
    obtain ⟨a, row⟩ := row
    exact congrArg (writeEntry name (format.write depth a) :: ·) (ih row)

lemma map_fst_pairs (depth : Nat) (fields : Fields types) (row : Row types) :
    (fields.pairs depth row).map Prod.fst = fields.names := by
  induction fields with
  | done => rfl
  | field name format default? more ih =>
    obtain ⟨a, row⟩ := row
    exact congrArg (name :: ·) (ih row)

/-- A draft in which all fields are given has no need of defaults. -/
lemma finish_given (fields : Fields types) (row : Row types) :
    fields.finish row.given = .ok row := by
  induction fields with
  | done => rfl
  | field name format default? more ih =>
    obtain ⟨a, row⟩ := row
    simp only [Row.given, finish, Option.some_or, ih row]

section Field

variable {name : String} {format : Format α} {default? : Option α} {more : Fields types}

/-- The entry of a field that has not been given. -/
lemma readEntry_self (draft : Draft types) :
    readEntry (.field name format default? more) name ((none, draft) : Draft (α :: types)) =
      Reader.map (fun a => (some a, draft)) (Reader.afterColon format.read) := by
  rw [← afterColon_map]
  simp only [readEntry, offer, if_true]
  rfl

/-- The entry of another field is one for the fields behind. -/
lemma readEntry_of_ne {key : String} (h : key ≠ name) (given : Option α) (draft : Draft types) :
    readEntry (.field name format default? more) key ((given, draft) : Draft (α :: types)) =
      Reader.map (fun draft => (given, draft)) (more.readEntry key draft) := by
  simp only [readEntry, offer, if_neg h]
  cases more.offer key draft with
  | unknown =>
    simp only [Offer.map]
    rw [← afterColon_map]
    refine congrArg Reader.afterColon (funext fun source => ?_)
    cases h : skipValue source <;> simp only [Reader.map, h] <;> rfl
  | repeated => rfl
  | fresh read => exact afterColon_map _ read

/-- What is gathered for the fields behind one. -/
lemma gathers_of_ne {pairs : List (String × List Char)} {draft draft' : Draft types}
    (h : Gathers more.readEntry draft pairs draft') (hne : ∀ pair ∈ pairs, pair.1 ≠ name)
    (given : Option α) :
    Gathers (readEntry (.field name format default? more))
      ((given, draft) : Draft (α :: types)) pairs ((given, draft') : Draft (α :: types)) := by
  induction h with
  | nil => exact .nil
  | cons hentry _ ih =>
    obtain ⟨hkey, hpairs⟩ := List.forall_mem_cons.mp hne
    refine .cons (fun rest => ?_) (ih hpairs)
    rw [readEntry_of_ne hkey]
    simp only [Reader.map, hentry]
    rfl

end Field

/-- **All fields are gathered from what is written of them.** -/
lemma gathers_pairs {fields : Fields types} {row : Row types} (hnames : fields.names.Nodup)
    (h : fields.Faithful row) (depth : Nat) :
    Gathers fields.readEntry fields.blank (fields.pairs depth row) row.given := by
  induction fields with
  | done => exact .nil
  | field name format default? more ih =>
    obtain ⟨a, row⟩ := row
    obtain ⟨ha, hrow⟩ := h
    obtain ⟨hname, hmore⟩ := List.nodup_cons.mp hnames
    have hne : ∀ pair ∈ more.pairs depth row, pair.1 ≠ name := by
      rintro pair hpair rfl
      exact hname (map_fst_pairs depth more row ▸ List.mem_map_of_mem hpair)
    refine .cons (fun rest => ?_) (gathers_of_ne (ih hmore hrow) hne (some a))
    refine (congrFun (readEntry_self more.blank) _).trans ?_
    simp only [Reader.map, ha.afterColon]
    rfl

end Fields

/-- **A record is read as it was written** if its fields have different names and their formats are
faithful to their values. -/
lemma faithful_record (name : String) {fields : Fields types} {row : Row types}
    (hnames : fields.names.Nodup) (h : fields.Faithful row) :
    (Format.record name fields).Faithful row where
  opening depth := by
    have hwrite : (Format.record name fields).write depth row =
      writeLines '{' '}' depth (fields.writeEntries (depth + 1) row) := rfl
    rw [hwrite]
    cases fields.writeEntries (depth + 1) row <;> exact ⟨'{', by decide, _, rfl⟩
  read {depth source rest} hsource := by
    obtain ⟨inside, hwrite, hread⟩ :=
      (Fields.gathers_pairs hnames h (depth + 1)).exists_entries depth rest
    have hinside : source.skipBlanks = some '{' :: inside := by
      rw [← hwrite, hsource, ← Fields.writeEntries_eq]
      rfl
    simp only [Format.record, hinside, Fields.readObject, hread, Fields.finish_given]

end SetupWizard.Document
