/-
# The shortest decimal of a binary number

A binary floating point number is shown by the decimal with the fewest digits that rounds back
to it, and among those by the one nearest to it.  The decimals that round back to a magnitude
fill an interval around it, whose ends belong to it when the significand is even.  Searching
upwards in the number of digits, the first grid of decimals that has a point in the interval
has one next to the magnitude itself.
-/
import SetupWizard.Decimal.Binary64

namespace SetupWizard.Decimal

/-- The decimal number `digits * 10 ^ exponent`. -/
structure Scientific where
  /-- The significant digits, as a whole number. -/
  digits : Nat
  /-- The power of ten that scales them. -/
  exponent : Int
deriving DecidableEq, Repr

namespace Scientific

/-- The fraction that a decimal is. -/
def ratio (d : Scientific) : Nat × Nat :=
  if d.exponent ≤ 0 then (d.digits, Nat.pow 10 d.exponent.natAbs)
  else (d.digits * Nat.pow 10 d.exponent.natAbs, 1)

/-- The decimal digits, the leading one first. -/
def chars (d : Scientific) : List Char := Nat.toDigits 10 d.digits

/-- The power of ten of the leading digit. -/
def leading (d : Scientific) : Int := d.exponent + (d.chars.length - 1 : Nat)

/-- Removes zeros at the end of the digits, at most as many as the fuel allows. -/
def stripZeros : Nat → Scientific → Scientific
  | 0, d => d
  | fuel + 1, d =>
    if d.digits ≠ 0 ∧ d.digits % 10 = 0 then stripZeros fuel ⟨d.digits / 10, d.exponent + 1⟩ else d

end Scientific

namespace Magnitude

/-- The fraction that is so many quarters of the unit in the last place of a magnitude. -/
def quarterRatio (x : Magnitude) (quarters : Nat) : Nat × Nat :=
  ratio ⟨quarters, x.exponent - 2⟩

/-- The lower end of the interval that rounds to a magnitude, in quarters of a unit. -/
def lowerQuarters (x : Magnitude) : Nat :=
  if x.significand = Nat.pow 2 (precision - 1) ∧ minExponent < x.exponent then 4 * x.significand - 1
  else 4 * x.significand - 2

/-- The upper end of the interval that rounds to a magnitude, in quarters of a unit. -/
def upperQuarters (x : Magnitude) : Nat := 4 * x.significand + 2

/-- Whether one fraction is less than another, or equal where that is allowed. -/
def below (orEqual : Bool) (a b : Nat × Nat) : Bool :=
  a.1 * b.2 < b.1 * a.2 || (orEqual && a.1 * b.2 == b.1 * a.2)

/-- Whether a decimal rounds to a magnitude. -/
def roundsFrom (x : Magnitude) (d : Scientific) : Bool :=
  let ends := x.significand % 2 == 0
  below ends (x.quarterRatio x.lowerQuarters) d.ratio &&
    below ends d.ratio (x.quarterRatio x.upperQuarters)

/-- The power of ten of the leading digit of a positive magnitude. -/
def decimalExponent (x : Magnitude) : Int :=
  let (num, den) := x.ratio
  if den ≤ num then (Nat.toDigits 10 (num / den)).length - 1
  else
    -- the number of places by which the leading digit lies behind the point
    -(((List.range 400).find? fun k => den ≤ num * Nat.pow 10 k).getD 0 : Nat)

/-- The decimal that rounds to a magnitude and is nearest to it, of those with their last digit
at the given power of ten. -/
def onGrid (x : Magnitude) (exponent : Int) : Option Scientific :=
  let (num, den) := x.ratio
  let num := num * Nat.pow 10 (-exponent).toNat
  let den := den * Nat.pow 10 exponent.toNat
  let floor : Scientific := ⟨num / den, exponent⟩
  let ceiling : Scientific := ⟨num / den + 1, exponent⟩
  let toCeiling := den < 2 * (num % den) || (den == 2 * (num % den) && num / den % 2 == 1)
  match x.roundsFrom floor, x.roundsFrom ceiling with
  | true, true => some (if toCeiling then ceiling else floor)
  | true, false => some floor
  | false, true => some ceiling
  | false, false => none

/-- The shortest decimal that rounds to a magnitude. -/
def shortest (x : Magnitude) : Scientific :=
  if x.significand = 0 then ⟨0, 0⟩
  else
    let leading := x.decimalExponent
    (((List.range 17).findSome? fun n : Nat => x.onGrid (leading - n)).getD ⟨0, 0⟩).stripZeros 20

end Magnitude

/-- How decimals are laid out. -/
structure Layout where
  /-- The least power of ten of a leading digit that is written without an exponent. -/
  leastPositional : Int
  /-- The greatest power of ten of a leading digit that is written without an exponent. -/
  greatestPositional : Int
  /-- What is written before a positive exponent. -/
  plus : String

namespace Layout

/-- A decimal as text, with a point in every positional form. -/
def write (layout : Layout) (d : Scientific) : List Char :=
  let digits := d.chars
  let leading := d.leading
  if layout.leastPositional ≤ leading ∧ leading ≤ layout.greatestPositional then
    if 0 ≤ d.exponent then digits ++ List.replicate d.exponent.toNat '0' ++ ".0".toList
    else if 0 ≤ leading then
      digits.take (leading.toNat + 1) ++ '.' :: digits.drop (leading.toNat + 1)
    else "0.".toList ++ List.replicate ((-leading).toNat - 1) '0' ++ digits
  else
    let fraction := if digits.length = 1 then [] else '.' :: digits.drop 1
    let exponent := if 0 ≤ leading then layout.plus.toList ++ Nat.toDigits 10 leading.toNat
      else '-' :: Nat.toDigits 10 (-leading).toNat
    digits.take 1 ++ fraction ++ 'e' :: exponent

/-- A binary number as text, by its shortest decimal. -/
def writeBinary (layout : Layout) (x : Binary64) : List Char :=
  let text := layout.write x.magnitude.shortest
  if x.negative then '-' :: text else text

end Layout

end SetupWizard.Decimal
