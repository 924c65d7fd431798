/-
# Binary floating point

A number in a document that is no whole number of 64 bits is understood as a binary floating
point number with 53 significant bits.  Magnitudes of such numbers are held exactly, as a
significand times a power of two, and the one inexact operation is rounding: `ofRatio` gives
the magnitude nearest to a fraction, and of two equally near ones that with an even
significand.
-/
namespace SetupWizard.Decimal

/-- The magnitude `significand * 2 ^ exponent` of a finite binary floating point number. -/
structure Magnitude where
  /-- The significant bits, as a whole number. -/
  significand : Nat
  /-- The power of two that scales them. -/
  exponent : Int
deriving DecidableEq, Repr

namespace Magnitude

/-- The number of significant bits. -/
def precision : Nat := 53

/-- The least exponent. -/
def minExponent : Int := -1074

/-- The greatest exponent. -/
def maxExponent : Int := 971

/-- The magnitude zero. -/
def zero : Magnitude := ⟨0, minExponent⟩

/-- The fraction `num / den` as a fraction of the given power of two. -/
def scale (num den : Nat) (exponent : Int) : Nat × Nat :=
  if exponent ≤ 0 then (num * Nat.pow 2 exponent.natAbs, den)
  else (num, den * Nat.pow 2 exponent.natAbs)

/-- The whole number nearest to a fraction, the even one of two that are equally near. -/
def nearest (num den : Nat) : Nat :=
  let floor := num / den
  let rest := num % den
  if 2 * rest < den then floor
  else if den < 2 * rest then floor + 1
  else floor + floor % 2

/-- The exponent with which a fraction is held. -/
def exponentOf (num den : Nat) : Int :=
  let guess : Int := num.log2 - den.log2 - precision
  let scaled := scale num den guess
  max minExponent (if scaled.1 / scaled.2 < Nat.pow 2 precision then guess else guess + 1)

/-- The magnitude nearest to a fraction, unless the fraction is too large. -/
def ofRatio (num den : Nat) : Option Magnitude :=
  if num = 0 then some zero
  else
    let exponent := exponentOf num den
    let scaled := scale num den exponent
    let significand := nearest scaled.1 scaled.2
    let rounded : Magnitude :=
      if significand < Nat.pow 2 precision then ⟨significand, exponent⟩
      else ⟨significand / 2, exponent + 1⟩
    if rounded.exponent ≤ maxExponent then some rounded else none

/-- The fraction that a magnitude is. -/
def ratio (x : Magnitude) : Nat × Nat :=
  if x.exponent ≤ 0 then (x.significand, Nat.pow 2 x.exponent.natAbs)
  else (x.significand * Nat.pow 2 x.exponent.natAbs, 1)

/-- The magnitude nearest to a whole number. -/
def ofNat (n : Nat) : Option Magnitude := ofRatio n 1

/-- The magnitude nearest to a product. -/
def mul (x y : Magnitude) : Option Magnitude :=
  ofRatio (x.ratio.1 * y.ratio.1) (x.ratio.2 * y.ratio.2)

/-- The magnitude nearest to a quotient. -/
def div (x y : Magnitude) : Option Magnitude :=
  ofRatio (x.ratio.1 * y.ratio.2) (x.ratio.2 * y.ratio.1)

end Magnitude

/-- A finite binary floating point number. -/
structure Binary64 where
  /-- Whether the number carries a minus sign; zero may carry one too. -/
  negative : Bool
  /-- The number without its sign. -/
  magnitude : Magnitude
deriving DecidableEq, Repr

/-- One is held with its leading bit in the highest place. -/
example : Magnitude.ofRatio 1 1 = some ⟨2 ^ 52, -52⟩ := by decide

/-- A tenth is not held exactly. -/
example : Magnitude.ofRatio 1 10 = some ⟨7205759403792794, -56⟩ := by decide

end SetupWizard.Decimal
