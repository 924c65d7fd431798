/-
# Values are read as they are written

A format is *faithful* to a value when the value is read as it was written, at any level of
nesting, from behind any blanks and whatever follows it.  The formats of texts, truth values,
optional values, lists and texts by name are faithful to all values that their parts are faithful
to; records are the subject of `SetupWizard.Proofs.Document.Record`.
-/
import Mathlib.Data.List.DropRight
import SetupWizard.Document.Format
import SetupWizard.Proofs.Document.Quotation

namespace SetupWizard.Document

open Source (ofChars)

variable {α β σ : Type}

/-- The characters with which a written value can begin. -/
def openings : List Char := ['"', 't', 'f', 'n', '[', '{']

lemma isBlank_of_mem_openings {c : Char} (hc : c ∈ openings) :
    Source.isBlank (some c) = false := by
  have hall : (openings.all fun c => !Source.isBlank (some c)) = true := by decide
  simpa using List.all_eq_true.mp hall c hc

/-- A value is read as it was written, at any level of nesting and whatever follows it. -/
structure Format.Faithful (format : Format α) (a : α) : Prop where
  /-- What is written begins like a value. -/
  opening (depth : Nat) : ∃ c ∈ openings, ∃ cs, format.write depth a = c :: cs
  /-- What is written is read, behind any blanks, and nothing else. -/
  read {depth : Nat} {source rest : Source}
    (h : source.skipBlanks = ofChars (format.write depth a) ++ rest) :
    format.read source = .ok (a, rest)

namespace Source

/-- The beginning of a line is blank. -/
lemma skipBlanks_newline (depth : Nat) (source : Source) :
    skipBlanks (some '\n' :: (ofChars (indent depth) ++ source)) = skipBlanks source := by
  have hindent (n : Nat) : skipBlanks (ofChars (List.replicate n ' ') ++ source) =
      skipBlanks source := by
    induction n with
    | zero => rfl
    | succ n ih =>
      rw [List.replicate_succ, ofChars_cons, List.cons_append,
        skipBlanks_cons_of_blank (by decide), ih]
  rw [skipBlanks_cons_of_blank (by decide), indent, hindent]

end Source

namespace Format.Faithful

variable {format : Format α} {a : α}

/-- A written value does not begin with a blank. -/
lemma skipBlanks_write (h : format.Faithful a) (depth : Nat) (rest : Source) :
    Source.skipBlanks (ofChars (format.write depth a) ++ rest) =
      ofChars (format.write depth a) ++ rest := by
  obtain ⟨c, hc, cs, hwrite⟩ := h.opening depth
  rw [hwrite, Source.ofChars_cons, List.cons_append]
  exact Source.skipBlanks_cons_of_not_blank (isBlank_of_mem_openings hc) _

/-- A value that is read where it was written. -/
lemma read_write (h : format.Faithful a) (depth : Nat) (rest : Source) :
    format.read (ofChars (format.write depth a) ++ rest) = .ok (a, rest) :=
  h.read (h.skipBlanks_write depth rest)

/-- **A whole document that was written is read**, also with blanks behind it. -/
lemma readString_render (h : format.Faithful a) (blanks : String)
    (hblanks : Source.skipBlanks (.ofString blanks) = []) :
    format.readString (format.render a ++ blanks) = .ok a := by
  have hsource : Source.ofString (format.render a ++ blanks) =
      ofChars (format.write 0 a) ++ .ofString blanks := by
    simp [Source.ofString, Format.render]
  rw [Format.readString, Format.readSource, Reader.document, hsource, h.read_write]
  exact if_pos hblanks

end Format.Faithful

/-- A text is the text of its bytes. -/
lemma fromUTF8?_toUTF8 (s : String) : String.fromUTF8? s.toUTF8 = some s := by
  simp [String.fromUTF8?, String.fromUTF8, s.isValidUTF8]

/-! ### Single values -/

lemma faithful_text (s : String) : Format.text.Faithful s where
  opening _ := ⟨'"', by decide, Quotation.writeBody s.toList, rfl⟩
  read {_ source rest} h := by
    have hread := Quotation.read_writeBody s.toList rest
    rw [String.ofList_toList] at hread
    have hsource : source.skipBlanks =
        some '"' :: (ofChars (Quotation.writeBody s.toList) ++ rest) := h
    simp [Format.text, hsource, hread]

lemma word_ofChars (cs : List Char) (rest : Source) :
    Reader.word cs (ofChars cs ++ rest) = .ok ((), rest) := by
  induction cs with
  | nil => rfl
  | cons c cs ih => simp [Reader.word, ih]

lemma faithful_flag (b : Bool) : Format.flag.Faithful b where
  opening _ := by cases b <;> exact ⟨_, by decide, _, rfl⟩
  read {_ source rest} h := by
    cases b with
    | true =>
      have hsource : source.skipBlanks = some 't' :: (ofChars "rue".toList ++ rest) := h
      simp only [Format.flag, hsource, Reader.map, word_ofChars]
    | false =>
      have hsource : source.skipBlanks = some 'f' :: (ofChars "alse".toList ++ rest) := h
      simp only [Format.flag, hsource, Reader.map, word_ofChars]

/-- A value that may be absent is read as it was written if the present ones are, and none of them
begins like the word for an absent one. -/
lemma faithful_optional {format : Format α} {a? : Option α}
    (h : ∀ a, a? = some a → format.Faithful a)
    (hnull : ∀ a depth, a? = some a → (format.write depth a).head? ≠ some 'n') :
    format.optional.Faithful a? where
  opening depth := by
    cases a? with
    | none => exact ⟨'n', by decide, "ull".toList, rfl⟩
    | some a => exact (h a rfl).opening depth
  read {depth source rest} hsource := by
    cases a? with
    | none =>
      have hnone : source.skipBlanks = some 'n' :: (ofChars "ull".toList ++ rest) := hsource
      simp only [Format.optional, hnone, Reader.map, word_ofChars]
    | some a =>
      have hread : format.read source.skipBlanks = .ok (a, rest) :=
        (h a rfl).read ((List.dropWhile_idempotent _ _).trans hsource)
      obtain ⟨c, -, cs, hwrite⟩ := (h a rfl).opening depth
      have hc : c ≠ 'n' := by
        have := hnull a depth rfl
        simpa [hwrite] using this
      have hsome : source.skipBlanks = some c :: (ofChars cs ++ rest) := by
        rw [hsource]
        exact congrArg (fun w => ofChars w ++ rest) hwrite
      rw [Format.optional]
      dsimp only
      split
      · next rest' hnone =>
        have hc' : c = 'n' := by simpa [hsome] using congrArg List.head? hnone
        exact absurd hc' hc
      · rw [Reader.map, hread]

/-- The values of another type, if they stand for those of this one. -/
lemma faithful_via {format : Format α} {decode : α → β} {encode : β → α} {b : β}
    (h : format.Faithful (encode b)) (hb : decode (encode b) = b) :
    (Format.via format decode encode).Faithful b where
  opening := h.opening
  read hsource := by
    have hread := h.read hsource
    simp only [Format.via, Reader.map, hread, hb]

/-! ### Lines -/

/-- What stands behind the first line of an array or an object. -/
def writeRest (closing : Char) (depth : Nat) (lines : List (List Char)) : List Char :=
  lines.flatMap (fun line => ',' :: '\n' :: (indent (depth + 1) ++ line)) ++
    '\n' :: (indent depth ++ [closing])

/-- There are no more lines than characters. -/
lemma length_lt_writeRest (closing : Char) (depth : Nat) (lines : List (List Char)) :
    lines.length < (writeRest closing depth lines).length := by
  induction lines with
  | nil => simp [writeRest]
  | cons line lines ih =>
    simp only [writeRest, List.flatMap_cons, List.length_append, List.length_cons] at ih ⊢
    omega

section Lines

variable {opening closing : Char} {depth : Nat} {line : List Char} {lines : List (List Char)}
  {source rest : Source}

lemma ofChars_writeLines_nil :
    ofChars (writeLines opening closing depth []) ++ rest =
      some opening :: some closing :: rest := rfl

lemma ofChars_writeLines_cons :
    ofChars (writeLines opening closing depth (line :: lines)) ++ rest =
      some opening :: some '\n' :: (ofChars (indent (depth + 1)) ++ (ofChars line ++
        (ofChars (writeRest closing depth lines) ++ rest))) := by
  simp [writeLines, writeRest]

lemma ofChars_writeRest_cons :
    ofChars (writeRest closing depth (line :: lines)) ++ rest =
      some ',' :: some '\n' :: (ofChars (indent (depth + 1)) ++ (ofChars line ++
        (ofChars (writeRest closing depth lines) ++ rest))) := by
  simp [writeRest]

/-- A line is reached by skipping what stands in front of it. -/
lemma skipBlanks_line (h : source.skipBlanks = source) :
    Source.skipBlanks (some '\n' :: (ofChars (indent depth) ++ source)) = source :=
  (Source.skipBlanks_newline depth source).trans h

/-- The closing bracket stands alone on the last line. -/
lemma skipBlanks_writeRest_nil (h : Source.isBlank (some closing) = false) :
    Source.skipBlanks (ofChars (writeRest closing depth []) ++ rest) = some closing :: rest := by
  have hline : Source.skipBlanks (some '\n' :: (ofChars (indent depth) ++ some closing :: rest)) =
      some closing :: rest :=
    skipBlanks_line (Source.skipBlanks_cons_of_not_blank h rest)
  simpa [writeRest] using hline

end Lines

/-! ### Lists -/

section Elements

variable {format : Format α} {a : α} {as : List α} {depth fuel : Nat}
  {source behind rest rest' : Source}

/-- The closing bracket ends an array. -/
lemma elements_closed {first : Bool} (hsource : source.skipBlanks = some ']' :: rest) :
    elements format.read (fuel + 1) first source = .ok ([], rest) := by
  cases first <;> simp only [elements, hsource]

/-- The first element of an array stands right behind the bracket. -/
lemma elements_first (h : format.Faithful a)
    (hsource : source.skipBlanks = ofChars (format.write depth a) ++ rest)
    (hrest : elements format.read fuel false rest = .ok (as, rest')) :
    elements format.read (fuel + 1) true source = .ok (a :: as, rest') := by
  obtain ⟨c, hc, cs, hwrite⟩ := h.opening depth
  have hread := h.read_write depth rest
  rw [hwrite, Source.ofChars_cons, List.cons_append] at hsource hread
  have hne : c ≠ ']' := ne_of_mem_of_not_mem hc (by decide)
  simp [elements, hsource, hne, hread, hrest]

/-- Any other element stands behind a comma. -/
lemma elements_next (h : format.Faithful a) (hcomma : source.skipBlanks = some ',' :: behind)
    (hsource : behind.skipBlanks = ofChars (format.write depth a) ++ rest)
    (hrest : elements format.read fuel false rest = .ok (as, rest')) :
    elements format.read (fuel + 1) false source = .ok (a :: as, rest') := by
  obtain ⟨c, hc, cs, hwrite⟩ := h.opening depth
  have hread := h.read_write depth rest
  rw [hwrite, Source.ofChars_cons, List.cons_append] at hsource hread
  have hne : c ≠ ']' := ne_of_mem_of_not_mem hc (by decide)
  simp [elements, hcomma, hsource, hne, hread, hrest]

/-- The elements behind the first are read as they were written. -/
lemma elements_writeRest (h : ∀ a ∈ as, format.Faithful a) (hfuel : as.length < fuel) :
    elements format.read fuel false
        (ofChars (writeRest ']' depth (as.map (format.write (depth + 1)))) ++ rest) =
      .ok (as, rest) := by
  induction as generalizing fuel with
  | nil =>
    obtain ⟨fuel, rfl⟩ := Nat.exists_eq_add_one_of_ne_zero (Nat.ne_zero_of_lt hfuel)
    exact elements_closed (skipBlanks_writeRest_nil (by decide))
  | cons a as ih =>
    obtain ⟨fuel, rfl⟩ := Nat.exists_eq_add_one_of_ne_zero (Nat.ne_zero_of_lt hfuel)
    obtain ⟨ha, has⟩ := List.forall_mem_cons.mp h
    have hrest := ih has (Nat.lt_of_succ_lt_succ hfuel)
    rw [List.map_cons, ofChars_writeRest_cons]
    exact elements_next ha (Source.skipBlanks_cons_of_not_blank (by decide) _)
      (skipBlanks_line (ha.skipBlanks_write _ _)) hrest

end Elements

/-- **A list is read as it was written** if its elements are. -/
lemma faithful_list {format : Format α} {as : List α} (h : ∀ a ∈ as, format.Faithful a) :
    (Format.list format).Faithful as where
  opening depth := by cases as <;> exact ⟨'[', by decide, _, rfl⟩
  read {depth source rest} hsource := by
    rw [show (Format.list format).write depth as =
      writeLines '[' ']' depth (as.map (format.write (depth + 1))) from rfl] at hsource
    cases as with
    | nil =>
      rw [List.map_nil, ofChars_writeLines_nil] at hsource
      simp only [Format.list, hsource]
      exact elements_closed (Source.skipBlanks_cons_of_not_blank (by decide) rest)
    | cons a as =>
      obtain ⟨ha, has⟩ := List.forall_mem_cons.mp h
      rw [List.map_cons, ofChars_writeLines_cons] at hsource
      simp only [Format.list, hsource]
      refine elements_first ha (skipBlanks_line (ha.skipBlanks_write _ _))
        (elements_writeRest has ?_)
      have hlength := length_lt_writeRest ']' depth (as.map (format.write (depth + 1)))
      simp only [List.length_map, List.length_cons, List.length_append, ofChars] at hlength ⊢
      omega

/-! ### Objects -/

/-- What is gathered from entries with the given keys and written values, one after the other. -/
inductive Gathers (entry : String → σ → Reader σ) :
    σ → List (String × List Char) → σ → Prop
  /-- No entries are left. -/
  | nil {s : σ} : Gathers entry s [] s
  /-- An entry that is read as it was written, and those behind it. -/
  | cons {s s' s'' : σ} {key : String} {value : List Char} {pairs : List (String × List Char)} :
      (∀ rest, entry key s (some ':' :: some ' ' :: (ofChars value ++ rest)) = .ok (s', rest)) →
      Gathers entry s' pairs s'' → Gathers entry s ((key, value) :: pairs) s''

/-- The lines of entries with the given keys and written values. -/
def writePairs (pairs : List (String × List Char)) : List (List Char) :=
  pairs.map fun pair => writeEntry pair.1 pair.2

section Entries

variable {entry : String → σ → Reader σ} {s s' s'' : σ} {key : String} {value : List Char}
  {pairs : List (String × List Char)} {depth fuel : Nat} {source behind rest rest' : Source}

/-- An entry begins with its key. -/
lemma ofChars_writeEntry :
    ofChars (writeEntry key value) ++ rest =
      some '"' :: (ofChars (Quotation.writeBody key.toList) ++
        (some ':' :: some ' ' :: (ofChars value ++ rest))) := by
  simp [writeEntry, Quotation.write]

lemma skipBlanks_writeEntry :
    Source.skipBlanks (ofChars (writeEntry key value) ++ rest) =
      ofChars (writeEntry key value) ++ rest := by
  rw [ofChars_writeEntry]
  exact Source.skipBlanks_cons_of_not_blank (by decide) _

/-- The closing bracket ends an object. -/
lemma entries_closed {first : Bool} (hsource : source.skipBlanks = some '}' :: rest) :
    entries entry (fuel + 1) first s source = .ok (s, rest) := by
  cases first <;> simp only [entries, hsource]

section Entry

variable (hentry : ∀ rest, entry key s (some ':' :: some ' ' :: (ofChars value ++ rest)) =
    .ok (s', rest))
  (hrest : entries entry fuel false s' rest = .ok (s'', rest'))
include hentry hrest

/-- The first entry of an object stands right behind the bracket. -/
lemma entries_first (hsource : source.skipBlanks = ofChars (writeEntry key value) ++ rest) :
    entries entry (fuel + 1) true s source = .ok (s'', rest') := by
  rw [ofChars_writeEntry] at hsource
  simp [entries, hsource, Quotation.read_writeBody, hentry, hrest]

/-- Any other entry stands behind a comma. -/
lemma entries_next (hcomma : source.skipBlanks = some ',' :: behind)
    (hsource : behind.skipBlanks = ofChars (writeEntry key value) ++ rest) :
    entries entry (fuel + 1) false s source = .ok (s'', rest') := by
  rw [ofChars_writeEntry] at hsource
  simp [entries, hcomma, hsource, Quotation.read_writeBody, hentry, hrest]

end Entry

/-- The entries behind the first are read as they were written. -/
lemma Gathers.entries_writeRest (h : Gathers entry s pairs s') (hfuel : pairs.length < fuel) :
    entries entry fuel false s (ofChars (writeRest '}' depth (writePairs pairs)) ++ rest) =
      .ok (s', rest) := by
  induction h generalizing fuel with
  | nil =>
    obtain ⟨fuel, rfl⟩ := Nat.exists_eq_add_one_of_ne_zero (Nat.ne_zero_of_lt hfuel)
    exact entries_closed (skipBlanks_writeRest_nil (by decide))
  | cons hentry _ ih =>
    obtain ⟨fuel, rfl⟩ := Nat.exists_eq_add_one_of_ne_zero (Nat.ne_zero_of_lt hfuel)
    rw [writePairs, List.map_cons, ofChars_writeRest_cons]
    exact entries_next hentry (ih (Nat.lt_of_succ_lt_succ hfuel))
      (Source.skipBlanks_cons_of_not_blank (by decide) _) (skipBlanks_line skipBlanks_writeEntry)

/-- An object begins with its bracket, and **its entries are read as they were written**. -/
lemma Gathers.exists_entries (h : Gathers entry s pairs s') (depth : Nat) (rest : Source) :
    ∃ source,
      ofChars (writeLines '{' '}' depth (writePairs pairs)) ++ rest = some '{' :: source ∧
      entries entry (source.length + 1) true s source = .ok (s', rest) := by
  cases h with
  | nil =>
    exact ⟨_, ofChars_writeLines_nil,
      entries_closed (Source.skipBlanks_cons_of_not_blank (by decide) rest)⟩
  | @cons _ _ _ key value pairs hentry hpairs =>
    refine ⟨_, ofChars_writeLines_cons, entries_first hentry (hpairs.entries_writeRest ?_)
      (skipBlanks_line skipBlanks_writeEntry)⟩
    have hlength := length_lt_writeRest '}' depth (writePairs pairs)
    simp only [writePairs, List.length_map, List.length_cons, List.length_append, ofChars]
      at hlength ⊢
    omega

end Entries

/-- Changing what is read behind the mark of an entry. -/
lemma afterColon_map (f : α → β) (read : Reader α) :
    Reader.afterColon (Reader.map f read) = Reader.map f (Reader.afterColon read) := by
  funext source
  simp only [Reader.afterColon, Reader.map]
  split <;> rfl

/-- A value behind the mark of an entry is read as it was written. -/
lemma Format.Faithful.afterColon {format : Format α} {a : α} (h : format.Faithful a) (depth : Nat)
    (rest : Source) :
    Reader.afterColon format.read
        (some ':' :: some ' ' :: (ofChars (format.write depth a) ++ rest)) =
      .ok (a, rest) := by
  have hblank : Source.skipBlanks (some ' ' :: (ofChars (format.write depth a) ++ rest)) =
      ofChars (format.write depth a) ++ rest := by
    rw [Source.skipBlanks_cons_of_blank (by decide), h.skipBlanks_write]
  rw [Reader.afterColon, Source.skipBlanks_cons_of_not_blank (by decide)]
  exact h.read hblank

/-! ### Texts by name -/

/-- Texts that are put in one by one make up the same texts. -/
lemma foldl_insert_toList (texts : Std.ExtTreeMap String String) :
    texts.toList.foldl (fun m pair => m.insert pair.1 pair.2) ∅ = texts := by
  rw [← Std.ExtTreeMap.insertMany_list_eq_foldl]
  refine Std.ExtTreeMap.ext_getElem? fun {n} => ?_
  cases h : texts[n]? with
  | some value =>
    exact Std.ExtTreeMap.getElem?_insertMany_list_of_mem Std.ReflCmp.compare_self
      Std.ExtTreeMap.distinct_keys_toList (Std.ExtTreeMap.mem_toList_iff_getElem?_eq_some.mpr h)
  | none =>
    rw [Std.ExtTreeMap.getElem?_insertMany_list_of_contains_eq_false,
      Std.ExtTreeMap.getElem?_empty]
    rw [Std.ExtTreeMap.map_fst_toList_eq_keys, Std.ExtTreeMap.contains_keys,
      Std.ExtTreeMap.contains_eq_isSome_getElem?, h]
    rfl

lemma gathers_texts (pairs : List (String × String)) (texts : Std.ExtTreeMap String String) :
    Gathers (fun key map => Reader.afterColon (Reader.map (map.insert key) Format.text.read)) texts
      (pairs.map fun pair => (pair.1, Format.text.write 0 pair.2))
      (pairs.foldl (fun m pair => m.insert pair.1 pair.2) texts) := by
  induction pairs generalizing texts with
  | nil => exact .nil
  | cons pair pairs ih =>
    refine .cons (fun rest => ?_) (ih _)
    rw [afterColon_map, Reader.map, (faithful_text pair.2).afterColon 0 rest]

lemma faithful_texts (texts : Std.ExtTreeMap String String) : Format.texts.Faithful texts where
  opening depth := by
    have hwrite : Format.texts.write depth texts = writeLines '{' '}' depth _ := rfl
    rw [hwrite]
    cases texts.toList <;> exact ⟨'{', by decide, _, rfl⟩
  read {depth source rest} hsource := by
    have hgathers := gathers_texts texts.toList ∅
    rw [foldl_insert_toList] at hgathers
    obtain ⟨inside, hwrite, hread⟩ := hgathers.exists_entries depth rest
    have hinside : source.skipBlanks = some '{' :: inside := by
      rw [← hwrite, hsource, writePairs, List.map_map]
      rfl
    simp only [Format.texts, hinside, hread]

end SetupWizard.Document
