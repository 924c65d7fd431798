/-
# Numbers in documents

No document of this library holds numbers, but a number may stand where something else is
wanted, and then the message shows it.  A whole number of 64 bits is kept as it is.  Any other
number becomes a binary floating point number: as many leading digits as a word of 64 bits has
room for make a whole number, and one multiplication with, or division by, a power of ten
brings it to size.  The grammar admits no leading zeros, and a point and an exponent both need
a digit behind them.
-/
import SetupWizard.Document.Source
import SetupWizard.Decimal.Whole

namespace SetupWizard.Document.Number

open SetupWizard.Decimal

/-- The digits at the front of a source, and what follows them. -/
def digits : Source → List Nat × Source
  | [] => ([], [])
  | s :: rest =>
    match s.bind digit? with
    | some d => let (ds, rest') := digits rest; (d :: ds, rest')
    | none => ([], s :: rest)

/-- Appends digits to a number as long as it stays at most `limit`: the number, how many
digits were taken, and the digits that were left. -/
def gather (limit : Nat) : Nat → List Nat → Nat × Nat × List Nat
  | n, [] => (n, 0, [])
  | n, d :: ds =>
    if 10 * n + d ≤ limit then
      let (n', taken, left) := gather limit (10 * n + d) ds
      (n', taken + 1, left)
    else (n, 0, d :: ds)

/-- The greatest number that a word of 64 bits holds. -/
def maxSignificand : Nat := 0xFFFFFFFFFFFFFFFF

/-- The greatest exponent that is understood. -/
def maxExponent : Nat := 0x7FFFFFFF

/-- The greatest power of ten that a multiplication or a division uses. -/
def maxPower : Nat := 308

/-- The magnitude nearest to a power of ten. -/
def power (k : Nat) : Magnitude := (Magnitude.ofNat (Nat.pow 10 k)).getD .zero

/-- Divides a magnitude by a power of ten, by the greatest power in use as often as needed. -/
def divideByPower (x : Magnitude) (k : Nat) : Magnitude :=
  if k ≤ maxPower then (x.div (power k)).getD .zero
  else if x.significand = 0 then x
  else divideByPower ((x.div (power maxPower)).getD .zero) (k - maxPower)
termination_by k
decreasing_by
  have : 0 < maxPower := by decide
  omega

/-- The magnitude of a whole number times a power of ten, unless it is too large. -/
def magnitude (significand : Nat) (exponent : Int) : Option Magnitude := do
  let x ← Magnitude.ofNat significand
  if exponent < 0 then return divideByPower x exponent.natAbs
  else if exponent.natAbs ≤ maxPower then x.mul (power exponent.natAbs)
  else if significand = 0 then return x
  else none

/-- The floating point number with the given sign, digits and exponent. -/
def floating (negative : Bool) (significand : Nat) (exponent : Int) : Except Fault Found :=
  match magnitude significand exponent with
  | some x => .ok (.floating ⟨negative, x⟩)
  | none => .error .malformed

/-- The whole number with the given sign and digits; as a floating point number where it does
not fit, and where it is a negative zero. -/
def whole (negative : Bool) (significand : Nat) : Except Fault Found :=
  if negative then
    if 0 < significand ∧ significand ≤ 0x8000000000000000 then .ok (.integer (-(significand : Int)))
    else floating true significand 0
  else .ok (.integer significand)

/-- Reads the exponent of a number, behind its mark. -/
def exponentPart (negative : Bool) (significand : Nat) (start : Int) : Reader Found :=
  fun source =>
    let (down, source) := match source with
      | some '+' :: rest => (false, rest)
      | some '-' :: rest => (true, rest)
      | _ => (false, source)
    match digits source with
    | ([], []) => .error .truncated
    | ([], _ :: _) => .error .malformed
    | (ds, rest) =>
      match gather maxExponent 0 ds with
      | (n, _, []) =>
        match floating negative significand (if down then start - n else start + n) with
        | .ok found => .ok (found, rest)
        | .error fault => .error fault
      | (_, _, _ :: _) =>
        if significand ≠ 0 ∧ !down then .error .malformed
        else .ok (.floating ⟨negative, .zero⟩, rest)

/-- Reads what may follow the digits of a number: an exponent or nothing. -/
def afterFraction (negative : Bool) (significand : Nat) (start : Int) : Reader Found :=
  fun source =>
    match source with
    | some 'e' :: rest => exponentPart negative significand start rest
    | some 'E' :: rest => exponentPart negative significand start rest
    | _ =>
      match floating negative significand start with
      | .ok found => .ok (found, source)
      | .error fault => .error fault

/-- Reads the digits behind the point of a number, and what follows them. -/
def fraction (negative : Bool) (significand : Nat) (start : Int) : Reader Found := fun source =>
  match digits source with
  | ([], []) => .error .truncated
  | ([], _ :: _) => .error .malformed
  | (ds, rest) =>
    let (n, taken, _) := gather maxSignificand significand ds
    afterFraction negative n (start - taken) rest

/-- Reads a number behind its sign. -/
def unsigned (negative : Bool) : Reader Found := fun source =>
  match digits source with
  | ([], []) => .error .truncated
  | ([], _ :: _) => .error .malformed
  | (0 :: _ :: _, _) => .error .malformed
  | (ds, rest) =>
    let (n, _, left) := gather maxSignificand 0 ds
    match rest, left with
    | some '.' :: rest, _ => fraction negative n left.length rest
    | some 'e' :: rest, _ => exponentPart negative n left.length rest
    | some 'E' :: rest, _ => exponentPart negative n left.length rest
    | rest, [] =>
      match whole negative n with
      | .ok found => .ok (found, rest)
      | .error fault => .error fault
    | rest, _ :: _ =>
      match floating negative n left.length with
      | .ok found => .ok (found, rest)
      | .error fault => .error fault

/-- Reads a number. -/
def read : Reader Found := fun source =>
  match source with
  | some '-' :: rest => unsigned true rest
  | _ => unsigned false source

/-! ### Passing over numbers

A number that is not kept must be grammatical, but it may be of any size. -/

/-- Passes over the exponent of a number, behind its mark. -/
def skipExponent (source : Source) : Except Fault Source :=
  let source := match source with
    | some '+' :: rest => rest
    | some '-' :: rest => rest
    | _ => source
  match digits source with
  | ([], _) => .error .malformed
  | (_, rest) => .ok rest

/-- Passes over what may follow the digits of a number. -/
def skipAfterFraction (source : Source) : Except Fault Source :=
  match source with
  | some 'e' :: rest => skipExponent rest
  | some 'E' :: rest => skipExponent rest
  | _ => .ok source

/-- Passes over a number behind its sign. -/
def skipUnsigned (source : Source) : Except Fault Source :=
  match digits source with
  | ([], _) => .error .malformed
  | (0 :: _ :: _, _) => .error .malformed
  | (_, some '.' :: rest) =>
    match digits rest with
    | ([], _) => .error .malformed
    | (_, rest) => skipAfterFraction rest
  | (_, rest) => skipAfterFraction rest

/-- Passes over a number. -/
def skip (source : Source) : Except Fault Source :=
  match source with
  | some '-' :: rest => skipUnsigned rest
  | _ => skipUnsigned source

/-- Whether a number begins with a symbol. -/
def begins (s : Symbol) : Bool :=
  match s with
  | some c => c == '-' || (digit? c).isSome
  | none => false

end SetupWizard.Document.Number
