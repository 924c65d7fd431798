/-
# What is written is a document for everyone

The formats of this library read what they have written themselves.  Somebody who knows nothing of
them can read it too: whatever is written of a value is a document, and its arrays and objects are
nested in each other no deeper than the types say.  A format with this property is *plain*.  Texts
and truth values are plain for everyone, and an array or an object needs one level more than what
is inside.  Three levels do for the record of an installation (`PanelRecord.checkAny_document`) and
four for a definition (`Definition.checkAny_render`), of the many that a reader allows.
-/
import SetupWizard.Document.Any
import SetupWizard.Proofs.Definition.Saving
import SetupWizard.Proofs.Record.Writing

namespace SetupWizard

namespace Document

open Source (ofChars)

variable {α β : Type} {n : Nat} {source rest : Source}

/-- What is written of a value, read without regard to what it is. -/
def Format.anyhow (format : Format α) (n : Nat) (a : α) : Format Unit where
  write depth _ := format.write depth a
  read := readAny n

/-- All values are written so that they can be read without regard to what they are, with at most
`n` arrays and objects nested in each other. -/
def Format.Plain (format : Format α) (n : Nat) : Prop := ∀ a, (format.anyhow n a).Faithful ()

/-- **A value in a plain format is a document**, also with blanks behind it. -/
lemma Format.Plain.checkAny_render {format : Format α} (h : format.Plain maxNesting) (a : α)
    (blanks : String) (hblanks : Source.skipBlanks (.ofString blanks) = []) :
    checkAny (format.render a ++ blanks) = .ok () :=
  (h a).readString_render blanks hblanks

/-! ### Single values -/

/-- What is neither an array nor an object is read as far as needed to name it. -/
lemma readAny_of_readFound {c : Char} {behind : Source} {found : Found}
    (h : source.skipBlanks = some c :: behind) (hsquare : c ≠ '[') (hcurly : c ≠ '{')
    (hfound : readFound source = .ok (found, rest)) : readAny n source = .ok ((), rest) := by
  have hagain : source.skipBlanks.skipBlanks = source.skipBlanks := List.dropWhile_idempotent _ _
  have hfound' : readFound (some c :: behind) = .ok (found, rest) := by
    rw [← h, ← hfound, readFound, readFound, hagain]
  cases n <;> simp [readAny, readAround, h, hsquare, hcurly, Reader.map, hfound']

lemma plain_text (n : Nat) : Format.text.Plain n := fun s => {
  opening := (faithful_text s).opening
  read := fun {_ source rest} h => by
    have hread := Quotation.read_writeBody s.toList rest
    have hsource : source.skipBlanks =
        some '"' :: (ofChars (Quotation.writeBody s.toList) ++ rest) := h
    have hfound : readFound source = .ok (.text (.ofList s.toList), rest) := by
      simp only [readFound, hsource, Reader.map, hread]
    exact readAny_of_readFound hsource (by decide) (by decide) hfound }

lemma plain_flag (n : Nat) : Format.flag.Plain n := fun b => {
  opening := (faithful_flag b).opening
  read := fun {_ source rest} h => by
    cases b with
    | true =>
      have hsource : source.skipBlanks = some 't' :: (ofChars "rue".toList ++ rest) := h
      have hfound : readFound source = .ok (.boolean true, rest) := by
        simp only [readFound, hsource, word_ofChars]
      exact readAny_of_readFound hsource (by decide) (by decide) hfound
    | false =>
      have hsource : source.skipBlanks = some 'f' :: (ofChars "alse".toList ++ rest) := h
      have hfound : readFound source = .ok (.boolean false, rest) := by
        simp only [readFound, hsource, word_ofChars]
      exact readAny_of_readFound hsource (by decide) (by decide) hfound }

lemma plain_optional {format : Format α} (h : format.Plain n) : format.optional.Plain n
  | some a => h a
  | none => {
    opening := fun _ => ⟨'n', by decide, "ull".toList, rfl⟩
    read := fun {_ source rest} h => by
      have hsource : source.skipBlanks = some 'n' :: (ofChars "ull".toList ++ rest) := h
      have hfound : readFound source = .ok (.null, rest) := by
        simp only [readFound, hsource, word_ofChars]
      exact readAny_of_readFound hsource (by decide) (by decide) hfound }

lemma plain_via {format : Format α} (h : format.Plain n) (decode : α → β) (encode : β → α) :
    (Format.via format decode encode).Plain n :=
  fun b => h (encode b)

/-! ### Lists -/

/-- The elements behind the first are read, whatever they are. -/
lemma elements_anyhow {format : Format α} (h : format.Plain n) (as : List α) {depth fuel : Nat}
    (hfuel : as.length < fuel) :
    elements (readAny n) fuel false
        (ofChars (writeRest ']' depth (as.map (format.write (depth + 1)))) ++ rest) =
      .ok (as.map fun _ => (), rest) := by
  induction as generalizing fuel with
  | nil =>
    obtain ⟨fuel, rfl⟩ := Nat.exists_eq_add_one_of_ne_zero (Nat.ne_zero_of_lt hfuel)
    have hclosed : Source.skipBlanks (ofChars (writeRest ']' depth []) ++ rest) =
        some ']' :: rest :=
      skipBlanks_writeRest_nil (by decide)
    simp only [elements, List.map_nil, hclosed]
  | cons a as ih =>
    obtain ⟨fuel, rfl⟩ := Nat.exists_eq_add_one_of_ne_zero (Nat.ne_zero_of_lt hfuel)
    rw [List.map_cons, ofChars_writeRest_cons]
    exact elements_next (h a) (Source.skipBlanks_cons_of_not_blank (by decide) _)
      (skipBlanks_line ((h a).skipBlanks_write _ _)) (ih (Nat.lt_of_succ_lt_succ hfuel))

lemma readAny_of_square {units : List Unit} {inside : Source}
    (h : source.skipBlanks = some '[' :: inside)
    (helements : elements (readAny n) (inside.length + 1) true inside = .ok (units, rest)) :
    readAny (n + 1) source = .ok ((), rest) := by
  simp [readAny, readAround, h, Reader.map, helements]

/-- A list of values in a plain format. -/
lemma plain_list {format : Format α} (h : format.Plain n) : (Format.list format).Plain (n + 1) :=
  fun as => {
    opening := fun depth => by cases as <;> exact ⟨'[', by decide, _, rfl⟩
    read := fun {depth source rest} hsource => by
      have hwrite : ((Format.list format).anyhow (n + 1) as).write depth () =
        writeLines '[' ']' depth (as.map (format.write (depth + 1))) := rfl
      rw [hwrite] at hsource
      cases as with
      | nil =>
        have hclosed : Source.skipBlanks (some ']' :: rest) = some ']' :: rest :=
          Source.skipBlanks_cons_of_not_blank (by decide) rest
        rw [List.map_nil, ofChars_writeLines_nil] at hsource
        have hnone (fuel : Nat) :
            elements (readAny n) (fuel + 1) true (some ']' :: rest) = .ok ([], rest) := by
          simp only [elements, hclosed]
        exact readAny_of_square hsource (hnone _)
      | cons a as =>
        rw [List.map_cons, ofChars_writeLines_cons] at hsource
        refine readAny_of_square hsource (elements_first (h a)
          (skipBlanks_line ((h a).skipBlanks_write _ _)) (elements_anyhow h as ?_))
        have hlength := length_lt_writeRest ']' depth (as.map (format.write (depth + 1)))
        simp only [List.length_map, List.length_cons, List.length_append, ofChars] at hlength ⊢
        omega }

/-! ### Objects -/

lemma readAny_of_curly {inside : Source} (h : source.skipBlanks = some '{' :: inside)
    (hentries : entries (fun _ _ => Reader.afterColon (readAny n)) (inside.length + 1) true ()
      inside = .ok ((), rest)) : readAny (n + 1) source = .ok ((), rest) := by
  simp [readAny, readAround, h, hentries]

/-- Entries whose values are documents are read one after the other. -/
lemma gathers_anyhow {pairs : List (String × List Char)}
    (h : ∀ pair ∈ pairs, ∀ rest, Reader.afterColon (readAny n)
      (some ':' :: some ' ' :: (ofChars pair.2 ++ rest)) = .ok ((), rest)) :
    Gathers (fun _ _ => Reader.afterColon (readAny n)) () pairs () := by
  induction pairs with
  | nil => exact .nil
  | cons pair pairs ih =>
    obtain ⟨hpair, hpairs⟩ := List.forall_mem_cons.mp h
    exact .cons hpair (ih hpairs)

/-- An object is a document if the values of its entries are. -/
lemma faithful_anyhow_of_pairs {format : Format α} {a : α}
    (pairs : Nat → List (String × List Char))
    (hwrite : ∀ depth, format.write depth a = writeLines '{' '}' depth (writePairs (pairs depth)))
    (h : ∀ depth, ∀ pair ∈ pairs depth, ∀ rest, Reader.afterColon (readAny n)
      (some ':' :: some ' ' :: (ofChars pair.2 ++ rest)) = .ok ((), rest)) :
    (format.anyhow (n + 1) a).Faithful () where
  opening depth := by
    refine ⟨'{', by decide, ?_⟩
    rw [Format.anyhow, hwrite]
    cases writePairs (pairs depth) <;> exact ⟨_, rfl⟩
  read {depth source rest} hsource := by
    obtain ⟨inside, hinside, hread⟩ := (gathers_anyhow (h depth)).exists_entries depth rest
    refine readAny_of_curly ?_ hread
    rw [hsource, ← hinside, Format.anyhow, hwrite]

lemma plain_texts (n : Nat) : Format.texts.Plain (n + 1) := fun texts => by
  refine faithful_anyhow_of_pairs
    (fun _ => texts.toList.map fun pair => (pair.1, Format.text.write 0 pair.2))
    (fun depth => ?_) ?_
  · rw [writePairs, List.map_map]
    rfl
  · rintro - pair hpair rest
    obtain ⟨⟨name, value⟩, -, rfl⟩ := List.mem_map.mp hpair
    exact (plain_text n value).afterColon 0 rest

/-- All fields have plain formats. -/
def Fields.Plain (n : Nat) {types : List Type} : Fields types → Prop
  | .done => True
  | .field _ format _ more => format.Plain n ∧ more.Plain n

lemma Fields.Plain.afterColon {types : List Type} {fields : Fields types} (h : fields.Plain n)
    (row : Row types) (depth : Nat) :
    ∀ pair ∈ fields.pairs depth row, ∀ rest, Reader.afterColon (readAny n)
      (some ':' :: some ' ' :: (ofChars pair.2 ++ rest)) = .ok ((), rest) := by
  induction fields with
  | done => exact fun _ hpair => absurd hpair List.not_mem_nil
  | field name format default? more ih =>
    obtain ⟨a, row⟩ := row
    exact List.forall_mem_cons.mpr ⟨(h.1 a).afterColon depth, ih h.2 row⟩

/-- A record with fields in plain formats. -/
lemma plain_record (name : String) {types : List Type} {fields : Fields types}
    (h : fields.Plain n) : (Format.record name fields).Plain (n + 1) := fun row =>
  faithful_anyhow_of_pairs (fun depth => fields.pairs (depth + 1) row)
    (fun depth => congrArg (writeLines '{' '}' depth) (fields.writeEntries_eq (depth + 1) row))
    fun depth => h.afterColon row (depth + 1)

end Document

/-! ### What the program writes -/

open Document

lemma PanelRecord.plain_format (n : Nat) : PanelRecord.format.Plain (n + 2) := by
  refine plain_via (plain_record _ ?_) _ _
  exact ⟨plain_text _, plain_texts _, True.intro⟩

/-- **The record of an installation is a document**, in which three arrays and objects are nested
in each other. -/
theorem PanelRecord.checkAny_document (records : List PanelRecord) :
    checkAny (document records) = .ok () := by
  have h : listFormat.Plain maxNesting := plain_list (plain_format 124)
  exact h.checkAny_render records "\n" (by decide)

namespace Definition

lemma plain_optional_text (n : Nat) : Format.text.optional.Plain n := plain_optional (plain_text n)

lemma plain_format (n : Nat) : format.Plain (n + 4) := by
  have hconditions : Condition.format.Plain (n + 2) := by
    refine plain_via (plain_record _ ?_) _ _
    exact ⟨plain_text _, plain_optional_text _, plain_optional_text _, plain_optional_text _,
      plain_optional (plain_flag _), plain_list (plain_text _), plain_list (plain_text _),
      plain_flag _, True.intro⟩
  have hderivations : Derivation.format.Plain (n + 2) := by
    refine plain_via (plain_record _ ?_) _ _
    exact ⟨plain_text _, plain_text _, plain_optional_text _, plain_flag _, plain_flag _,
      plain_flag _, True.intro⟩
  have hrequirements : Requirement.format.Plain (n + 2) := by
    refine plain_via (plain_record _ ?_) _ _
    exact ⟨plain_text _, plain_list (plain_text _), plain_flag _, True.intro⟩
  have hpanels : Panel.format.Plain (n + 2) := by
    refine plain_via (plain_record _ ?_) _ _
    exact ⟨plain_text _, plain_text _, plain_flag _, plain_optional_text _,
      plain_list (plain_text _), True.intro⟩
  refine plain_via (plain_record _ ?_) _ _
  exact ⟨plain_texts _, plain_list hconditions, plain_list hderivations,
    plain_list hrequirements, plain_list hpanels, True.intro⟩

/-- **A saved definition is a document**, in which four arrays and objects are nested in each
other. -/
theorem checkAny_render (d : Definition) : checkAny d.render = .ok () := by
  have hdocument := (plain_format 123).checkAny_render d "" rfl
  rwa [String.append_empty] at hdocument

end Definition

end SetupWizard
