/-
# Numerals

A numeral is a text of one ASCII digit or more, with at most one sign in front of them.  It denotes
what its digits denote in the decimal system, where zeros in front add nothing.  Reading takes
exactly the numerals, of whatever length, for the numbers that they denote (`signed?_eq_some_iff`);
only then is it asked whether the number lies in a range.
-/
import Mathlib.Algebra.Group.Int.Defs
import SetupWizard.Decimal.Whole

namespace SetupWizard.Decimal

variable {cs : List Char} {c : Char} {n : Nat} {z : Int}

/-- A text of one ASCII digit or more. -/
def AreDigits (cs : List Char) : Prop := cs ≠ [] ∧ ∀ c ∈ cs, c.isDigit = true

instance : DecidablePred AreDigits := fun _ => inferInstanceAs (Decidable (_ ∧ _))

/-- The number is denoted by digits with at most one sign in front. -/
inductive Numeral : Int → List Char → Prop
  /-- Digits alone. -/
  | bare {cs : List Char} : AreDigits cs → Numeral (Nat.ofDigitChars 10 cs 0) cs
  /-- Digits behind a plus sign. -/
  | plus {cs : List Char} : AreDigits cs → Numeral (Nat.ofDigitChars 10 cs 0) ('+' :: cs)
  /-- Digits behind a minus sign. -/
  | minus {cs : List Char} : AreDigits cs → Numeral (-(Nat.ofDigitChars 10 cs 0 : Nat)) ('-' :: cs)

/-! ### Reading digits -/

lemma digit?_eq_ite (c : Char) :
    digit? c = if c.isDigit then some (c.toNat - '0'.toNat) else none := by
  simp only [digit?, Char.isDigit, Char.le_def, Bool.and_eq_true, decide_eq_true_eq, ge_iff_le]

lemma continueDigits?_eq_some_iff {high : Nat} : continueDigits? high cs = some n ↔
    (∀ c ∈ cs, c.isDigit = true) ∧ Nat.ofDigitChars 10 cs high = n := by
  induction cs generalizing high with
  | nil => simp
  | cons c cs ih =>
    rw [continueDigits?, digit?_eq_ite, List.forall_mem_cons, Nat.ofDigitChars_cons]
    by_cases hc : c.isDigit = true
    · simp [hc, ih]
    · simp [hc]

lemma unsigned?_eq_some_iff :
    unsigned? cs = some n ↔ AreDigits cs ∧ Nat.ofDigitChars 10 cs 0 = n := by
  cases cs with
  | nil => simp [AreDigits]
  | cons c cs =>
    rw [unsigned?, continueDigits?_eq_some_iff]
    · simp [AreDigits]
    · simp

lemma AreDigits.unsigned? (h : AreDigits cs) :
    Decimal.unsigned? cs = some (Nat.ofDigitChars 10 cs 0) :=
  unsigned?_eq_some_iff.mpr ⟨h, rfl⟩

lemma signed?_minus (cs : List Char) :
    signed? ('-' :: cs) = (unsigned? cs).map fun n : Nat => -(n : Int) := by
  cases h : unsigned? cs <;> simp [signed?, h]

/-- Digits are not signs. -/
lemma AreDigits.signed? (h : AreDigits cs) :
    Decimal.signed? cs = some (Nat.ofDigitChars 10 cs 0 : Int) := by
  unfold Decimal.signed?
  split
  next => exact absurd (h.2 '-' List.mem_cons_self) (by decide)
  next => exact absurd (h.2 '+' List.mem_cons_self) (by decide)
  next => simp [h.unsigned?]

/-- **Reading takes exactly the numerals for the numbers that they denote.** -/
lemma signed?_eq_some_iff : signed? cs = some z ↔ Numeral z cs := by
  constructor
  · intro h
    unfold signed? at h
    split at h
    next cs =>
      have hminus : signed? ('-' :: cs) = some z := h
      rw [signed?_minus] at hminus
      obtain ⟨n, hn, rfl⟩ := Option.map_eq_some_iff.mp hminus
      obtain ⟨hdigits, rfl⟩ := unsigned?_eq_some_iff.mp hn
      exact .minus hdigits
    next cs =>
      obtain ⟨n, hn, rfl⟩ := Option.map_eq_some_iff.mp h
      obtain ⟨hdigits, rfl⟩ := unsigned?_eq_some_iff.mp hn
      exact .plus hdigits
    next =>
      obtain ⟨n, hn, rfl⟩ := Option.map_eq_some_iff.mp h
      obtain ⟨hdigits, rfl⟩ := unsigned?_eq_some_iff.mp hn
      exact .bare hdigits
  · rintro (h | h | h)
    · exact h.signed?
    · simp [signed?, h.unsigned?]
    · simp [signed?_minus, h.unsigned?]

lemma Range.read?_eq_some_iff (range : Range) (z : Int) (cs : List Char) :
    range.read? cs = some z ↔ Numeral z cs ∧ z ∈ range := by
  simp [read?, Option.filter_eq_some_iff, signed?_eq_some_iff]

/-- The number fits a signed word of so many bits. -/
def Fits (bits : Nat) (z : Int) : Prop := -2 ^ (bits - 1) ≤ z ∧ z < 2 ^ (bits - 1)

instance (bits : Nat) : DecidablePred (Fits bits) := fun _ => inferInstanceAs (Decidable (_ ∧ _))

lemma Range.mem_word32_iff : z ∈ word32 ↔ Fits 32 z := by
  show -0x80000000 ≤ z ∧ z ≤ 0x7FFFFFFF ↔ -2 ^ 31 ≤ z ∧ z < 2 ^ 31
  omega

lemma Range.mem_word64_iff : z ∈ word64 ↔ Fits 64 z := by
  show -0x8000000000000000 ≤ z ∧ z ≤ 0x7FFFFFFFFFFFFFFF ↔ -2 ^ 63 ≤ z ∧ z < 2 ^ 63
  omega

/-! ### Writing numbers -/

/-- The decimal notation of a number, with zeros in front of its digits. -/
def numeral (zeros : Nat) (z : Int) : List Char :=
  (if z < 0 then ['-'] else []) ++ (List.replicate zeros '0' ++ Nat.toDigits 10 z.natAbs)

lemma ofList_numeral_zero (z : Int) : String.ofList (numeral 0 z) = toString z := by
  apply String.toList_injective
  rw [Int.toString_eq_repr, Int.repr_eq_if, numeral]
  by_cases hz : z < 0
  · simp [hz, Int.not_le.mpr hz, show (-z).toNat = z.natAbs by omega]
  · simp [hz, Int.not_lt.mp hz, show z.toNat = z.natAbs by omega]

lemma areDigits_padded (zeros n : Nat) :
    AreDigits (List.replicate zeros '0' ++ Nat.toDigits 10 n) := by
  refine ⟨by simp [Nat.toDigits_ne_nil], fun c hc => ?_⟩
  rcases List.mem_append.mp hc with hc | hc
  · rw [List.eq_of_mem_replicate hc]
    decide
  · exact Nat.isDigit_of_mem_toDigits (by decide) (by decide) hc

lemma ofDigitChars_padded (zeros n : Nat) :
    Nat.ofDigitChars 10 (List.replicate zeros '0' ++ Nat.toDigits 10 n) 0 = n := by
  rw [Nat.ofDigitChars_append, Nat.ofDigitChars_replicate_zero, Nat.mul_zero,
    Nat.ofDigitChars_ten_toDigits]

/-- The decimal notation of a number is a numeral for it. -/
lemma numeral_denotes (zeros : Nat) (z : Int) : Numeral z (numeral zeros z) := by
  have hdigits := areDigits_padded zeros z.natAbs
  have hvalue := ofDigitChars_padded zeros z.natAbs
  rw [numeral]
  by_cases hz : z < 0
  · have hminus := Numeral.minus hdigits
    rw [hvalue, show -(z.natAbs : Int) = z by omega] at hminus
    simpa [hz] using hminus
  · have hbare := Numeral.bare hdigits
    rw [hvalue, show (z.natAbs : Int) = z by omega] at hbare
    simpa [hz] using hbare

end SetupWizard.Decimal
