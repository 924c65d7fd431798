/-
# Texts are read as they are written

Each character is written between quotes in one of two ways: as it stands, or as an escape that
reads back as the character.  Hence a written text reads back as itself, whatever its characters.
-/
import Mathlib.Tactic.Lemma
import Mathlib.Tactic.SplitIfs
import SetupWizard.Document.Quotation

namespace SetupWizard.Document.Quotation

lemma hexValue?_hexDigit : ∀ n < 16, hexValue? (hexDigit n) = some n := by decide

/-- The number of a control character, as it is written with four digits. -/
lemma hexNumber_control {n : Nat} (h : n < 0x20) (rest : Source) :
    hexNumber (some '0' :: some '0' :: some (hexDigit (n / 16)) :: some (hexDigit (n % 16)) :: rest)
      = .ok (n, rest) := by
  have hhigh : hexValue? (hexDigit (n / 16)) = some (n / 16) := hexValue?_hexDigit _ (by omega)
  have hlow : hexValue? (hexDigit (n % 16)) = some (n % 16) := hexValue?_hexDigit _ (by omega)
  have hzero : hexValue? '0' = some 0 := by decide
  simp [hexNumber, hexNumber?, hzero, hhigh, hlow, Nat.div_add_mod']

/-- The ways in which a character can be written between quotes. -/
inductive Written (c : Char) : List Char → Prop
  /-- As it stands. -/
  | plain : c ≠ '"' → c ≠ '\\' → ¬c.toNat < 0x20 → Written c [c]
  /-- As an escape for it. -/
  | escaped {cs : List Char} :
      (∀ rest, escape (Source.ofChars cs ++ rest) = .ok (c, rest)) → Written c ('\\' :: cs)

/-- An escape by a letter. -/
lemma Written.letter {c letter : Char} (hletter : letter ≠ 'u')
    (h : escapeLetter? letter = some c) :
    Written c ['\\', letter] := by
  refine .escaped fun rest => ?_
  rw [Source.ofChars_cons, Source.ofChars_nil, List.singleton_append, escape, h]
  exact hletter

/-- An escape by number. -/
lemma Written.control {c : Char} (h : c.toNat < 0x20) :
    Written c ['\\', 'u', '0', '0', hexDigit (c.toNat / 16), hexDigit (c.toNat % 16)] := by
  refine .escaped fun rest => ?_
  have hlow : ¬(0xDC00 ≤ c.toNat ∧ c.toNat ≤ 0xDFFF) := by omega
  have hsingle : c.toNat < 0xD800 ∨ 0xDBFF < c.toNat := by omega
  simp [escape, hexNumber_control h, surrogatePair, hlow, hsingle]

lemma written_writeChar (c : Char) : Written c (writeChar c) := by
  unfold writeChar
  split_ifs with hquote hbackslash _ _ _ _ _ hcontrol
  iterate 7
    subst c
    exact .letter (by decide) (by decide)
  · exact .control hcontrol
  · exact .plain hquote hbackslash hcontrol

/-- Reading takes off one character as it was written. -/
lemma body_of_written {c : Char} {cs : List Char} (h : Written c cs) (source : Source) :
    body true (Source.ofChars cs ++ source) = Reader.map (c :: ·) (body true) source := by
  cases h with
  | plain hquote hbackslash hcontrol =>
    rw [Source.ofChars_cons, Source.ofChars_nil, List.singleton_append, body, if_neg hquote,
      if_neg hbackslash, if_neg hcontrol, Reader.map]
    cases body true source <;> rfl
  | escaped hescape =>
    rw [Source.ofChars_cons, List.cons_append, body, if_neg (by decide), if_pos rfl, Reader.map]
    split
    · next fault hfault =>
      rw [hescape] at hfault
      cases hfault
    · next d rest hd =>
      rw [hescape] at hd
      cases hd
      cases body true source <;> rfl

/-- **A text is read as it was written**, up to its closing quote. -/
lemma read_writeBody (cs : List Char) (rest : Source) :
    read (Source.ofChars (writeBody cs) ++ rest) = .ok (String.ofList cs, rest) := by
  have hbody : body true (Source.ofChars (writeBody cs) ++ rest) = .ok (cs, rest) := by
    induction cs with
    | nil => simp [writeBody, body]
    | cons c cs ih =>
      have hcons : Source.ofChars (writeBody (c :: cs)) ++ rest =
          Source.ofChars (writeChar c) ++ (Source.ofChars (writeBody cs) ++ rest) := by
        simp [writeBody]
      rw [hcons, body_of_written (written_writeChar c), Reader.map, ih]
  rw [read, hbody]

end SetupWizard.Document.Quotation
