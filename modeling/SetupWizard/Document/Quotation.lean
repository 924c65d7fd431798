/-
# Texts in documents

A text in a document stands between double quotes, with escapes for quotes, backslashes and
control characters.  Written texts use the shortest escapes and leave everything else as it is;
read texts may escape any character, those beyond the first plane by a pair of surrogates.
-/
import SetupWizard.Document.Source

namespace SetupWizard.Document.Quotation

/-! ### Writing -/

/-- A digit in lower-case hexadecimal. -/
def hexDigit (n : Nat) : Char := Nat.digitChar n

/-- A character as it is written between quotes. -/
def writeChar (c : Char) : List Char :=
  if c = '"' then ['\\', '"']
  else if c = '\\' then ['\\', '\\']
  else if c = '\x08' then ['\\', 'b']
  else if c = '\x0c' then ['\\', 'f']
  else if c = '\n' then ['\\', 'n']
  else if c = '\r' then ['\\', 'r']
  else if c = '\t' then ['\\', 't']
  else if c.toNat < 0x20 then
    ['\\', 'u', '0', '0', hexDigit (c.toNat / 16), hexDigit (c.toNat % 16)]
  else [c]

/-- The characters of a text as they are written between quotes, and the closing quote. -/
def writeBody (cs : List Char) : List Char := cs.flatMap writeChar ++ ['"']

/-- A text with its quotes. -/
def write (s : String) : List Char := '"' :: writeBody s.toList

/-! ### Reading -/

/-- The value of a hexadecimal digit of either case. -/
def hexValue? (c : Char) : Option Nat :=
  if '0' ≤ c ∧ c ≤ '9' then some (c.toNat - '0'.toNat)
  else if 'a' ≤ c ∧ c ≤ 'f' then some (c.toNat - 'a'.toNat + 10)
  else if 'A' ≤ c ∧ c ≤ 'F' then some (c.toNat - 'A'.toNat + 10)
  else none

/-- The number denoted by four hexadecimal digits. -/
def hexNumber? (a b c d : Symbol) : Option Nat := do
  let a ← a.bind hexValue?
  let b ← b.bind hexValue?
  let c ← c.bind hexValue?
  let d ← d.bind hexValue?
  return ((a * 16 + b) * 16 + c) * 16 + d

/-- The bytes that a source stands for. -/
def byteCount : Source → Nat
  | [] => 0
  | some c :: source => c.utf8Size + byteCount source
  | none :: source => byteCount source + 1

/-- Reads four hexadecimal digits; a source of fewer than four bytes ends too early. -/
def hexNumber : Reader Nat := fun source =>
  match source with
  | a :: b :: c :: d :: rest =>
    match hexNumber? a b c d with
    | some n => .ok (n, rest)
    | none => .error .malformed
  | _ => .error (if byteCount source < 4 then .truncated else .malformed)

/-- Reads the rest of an escape by number whose first four digits gave `n`. -/
def surrogatePair (n : Nat) : Reader Char := fun source =>
  if 0xDC00 ≤ n ∧ n ≤ 0xDFFF then .error .malformed
  else if n < 0xD800 ∨ 0xDBFF < n then .ok (Char.ofNat n, source)
  else match source with
    | [] => .error .truncated
    | some '\\' :: [] => .error .truncated
    | some '\\' :: some 'u' :: rest =>
      match hexNumber rest with
      | .error fault => .error fault
      | .ok (m, rest) =>
        if 0xDC00 ≤ m ∧ m ≤ 0xDFFF then
          .ok (Char.ofNat (0x10000 + (n - 0xD800) * 0x400 + (m - 0xDC00)), rest)
        else .error .malformed
    | _ => .error .malformed

/-- The character that an escape letter stands for. -/
def escapeLetter? : Char → Option Char
  | '"' => some '"'
  | '\\' => some '\\'
  | '/' => some '/'
  | 'b' => some '\x08'
  | 'f' => some '\x0c'
  | 'n' => some '\n'
  | 'r' => some '\r'
  | 't' => some '\t'
  | _ => none

/-- Reads what follows a backslash. -/
def escape : Reader Char := fun source =>
  match source with
  | [] => .error .truncated
  | none :: _ => .error .malformed
  | some 'u' :: rest =>
    match hexNumber rest with
    | .error fault => .error fault
    | .ok (n, rest) => surrogatePair n rest
  | some c :: rest =>
    match escapeLetter? c with
    | some d => .ok (d, rest)
    | none => .error .malformed

theorem length_of_hexNumber {source rest : Source} {n : Nat}
    (h : hexNumber source = .ok (n, rest)) : rest.length < source.length := by
  unfold hexNumber at h
  split at h
  · split at h
    · cases h; simp only [List.length_cons]; omega
    · cases h
  · cases h

theorem length_of_surrogatePair {source rest : Source} {n : Nat} {c : Char}
    (h : surrogatePair n source = .ok (c, rest)) : rest.length ≤ source.length := by
  unfold surrogatePair at h
  split at h
  · cases h
  · split at h
    · simp only [Except.ok.injEq, Prod.mk.injEq] at h
      exact h.2 ▸ Nat.le_refl _
    · split at h
      · cases h
      · cases h
      · split at h
        · cases h
        · rename_i hex
          split at h
          · simp only [Except.ok.injEq, Prod.mk.injEq] at h
            have := length_of_hexNumber hex
            rw [← h.2]
            simp only [List.length_cons]; omega
          · cases h
      · cases h

theorem length_of_escape {source rest : Source} {c : Char}
    (h : escape source = .ok (c, rest)) : rest.length < source.length := by
  unfold escape at h
  split at h
  · cases h
  · cases h
  · split at h
    · cases h
    · rename_i hex
      have h₁ := length_of_hexNumber hex
      have h₂ := length_of_surrogatePair h
      simp only [List.length_cons]; omega
  · split at h
    · cases h; simp
    · cases h

/-- Reads the characters of a text up to the closing quote.  A byte that belongs to no character
is noticed only there, and `clean` says that there was none so far. -/
def body (clean : Bool) : Reader (List Char)
  | [] => .error .truncated
  | none :: rest => body false rest
  | some c :: rest =>
    if c = '"' then if clean then .ok ([], rest) else .error .malformed
    else if c = '\\' then
      match _h : escape rest with
      | .error fault => .error fault
      | .ok (d, rest') =>
        match body clean rest' with
        | .error fault => .error fault
        | .ok (cs, rest'') => .ok (d :: cs, rest'')
    else if c.toNat < 0x20 then .error .malformed
    else
      match body clean rest with
      | .error fault => .error fault
      | .ok (cs, rest'') => .ok (c :: cs, rest'')
termination_by source => source.length
decreasing_by
  · simp
  · have := length_of_escape _h
    simp only [List.length_cons]; omega
  · simp

/-- Reads a text behind its opening quote. -/
def read : Reader String := fun source =>
  match body true source with
  | .ok (cs, rest) => .ok (String.ofList cs, rest)
  | .error fault => .error fault

/-- Passes over a text behind its opening quote.  Only the grammar counts here: surrogates may
stand alone, and bytes need not belong to a character. -/
def skip : Source → Except Fault Source
  | [] => .error .truncated
  | none :: rest => skip rest
  | some c :: rest =>
    if c = '"' then .ok rest
    else if c = '\\' then
      match rest with
      | [] => .error .truncated
      | none :: _ => .error .malformed
      | some 'u' :: rest =>
        match _h : hexNumber rest with
        | .error fault => .error fault
        | .ok (_, rest') => skip rest'
      | some d :: rest => if (escapeLetter? d).isSome then skip rest else .error .malformed
    else if c.toNat < 0x20 then .error .malformed
    else skip rest
termination_by source => source.length
decreasing_by
  · simp
  · have := length_of_hexNumber _h
    simp only [List.length_cons]; omega
  · simp only [List.length_cons]; omega
  · simp

end SetupWizard.Document.Quotation
