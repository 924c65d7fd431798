/-
# Whole numbers in decimal notation

A whole number is written as an optional sign followed by at least one ASCII digit; leading
zeros mean nothing.  Reading is exact for digit strings of any length, and a range is applied
to the number that was read, so there is no overflow to speak of.
-/
namespace SetupWizard.Decimal

/-- The value of an ASCII digit. -/
def digit? (c : Char) : Option Nat :=
  if '0' ≤ c ∧ c ≤ '9' then some (c.toNat - '0'.toNat) else none

/-- The number denoted by digits that follow others with the value `high`. -/
def continueDigits? (high : Nat) : List Char → Option Nat
  | [] => some high
  | c :: cs => (digit? c).bind fun d => continueDigits? (10 * high + d) cs

/-- The number denoted by one digit or more. -/
def unsigned? : List Char → Option Nat
  | [] => none
  | cs => continueDigits? 0 cs

/-- The number denoted by digits with an optional sign in front. -/
def signed? : List Char → Option Int
  | '-' :: cs => (unsigned? cs).map fun n => -(n : Int)
  | '+' :: cs => (unsigned? cs).map Int.ofNat
  | cs => (unsigned? cs).map Int.ofNat

/-- A range of whole numbers, both ends included. -/
structure Range where
  /-- The least number of the range. -/
  least : Int
  /-- The greatest number of the range. -/
  greatest : Int

namespace Range

/-- The numbers that a signed word of 32 bits holds. -/
def word32 : Range := ⟨-0x80000000, 0x7FFFFFFF⟩

/-- The numbers that a signed word of 64 bits holds. -/
def word64 : Range := ⟨-0x8000000000000000, 0x7FFFFFFFFFFFFFFF⟩

instance : Membership Int Range := ⟨fun range z => range.least ≤ z ∧ z ≤ range.greatest⟩

instance (range : Range) (z : Int) : Decidable (z ∈ range) :=
  inferInstanceAs (Decidable (range.least ≤ z ∧ z ≤ range.greatest))

/-- The number denoted by a text, if it lies in the range. -/
def read? (range : Range) (cs : List Char) : Option Int :=
  (signed? cs).filter fun z => z ∈ range

theorem word32_le_word64 {z : Int} (h : z ∈ word32) : z ∈ word64 := by
  have h : -0x80000000 ≤ z ∧ z ≤ 0x7FFFFFFF := h
  show -0x8000000000000000 ≤ z ∧ z ≤ 0x7FFFFFFFFFFFFFFF
  omega

end Range

@[simp] theorem unsigned?_nil : unsigned? [] = none := rfl

@[simp] theorem continueDigits?_nil (high : Nat) : continueDigits? high [] = some high := rfl

end SetupWizard.Decimal
