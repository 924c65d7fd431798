/-
# Templates

A template is a text with placeholders `${NAME}` in it.  Expanding a template puts the values
of variables in place of the placeholders; a placeholder whose variable is not set stays as it
stands, so that a later expansion can still fill it.  Values are never expanded again.

The file sets up templates as lists of pieces, how they are written, how a text is read as a
template, and expansion.  Every text is the written form of at most one template, and a text
is the written form of none exactly when a placeholder in it is never closed.
-/
import SetupWizard.Store

namespace SetupWizard

/-- Why a text cannot be substituted. -/
inductive SubstitutionError where
  /-- The placeholder that begins at the given byte of the text has no end. -/
  | unterminated (input : String) (offset : Nat)
  /-- Whatever else a substitutor may object to. -/
  | failed (text : String)
deriving DecidableEq, Repr

namespace SubstitutionError

/-- The wording of a substitution error. -/
def message : SubstitutionError → String
  | .unterminated input offset =>
    "Unterminated placeholder at offset " ++ toString offset ++ " in '" ++ input ++ "'"
  | .failed text => "Substitution failed: " ++ text

end SubstitutionError

/-- A way to fill a text with the values of variables. -/
abbrev Substitutor := Store → String → Except SubstitutionError String

namespace Substitutor

/-- The filled text, or the text as it is where it cannot be filled. -/
def replace (substitute : Substitutor) (store : Store) (text : String) : String :=
  match substitute store text with
  | .ok filled => filled
  | .error _ => text

end Substitutor

namespace Template

/-- A piece of a template. -/
inductive Piece where
  /-- Characters that stand for themselves. -/
  | text (chars : List Char)
  /-- A placeholder for the variable of the given name. -/
  | placeholder (name : List Char)
deriving DecidableEq, Repr

namespace Piece

/-- How a piece is written. -/
def write : Piece → List Char
  | .text chars => chars
  | .placeholder name => '$' :: '{' :: (name ++ ['}'])

/-- What a piece becomes under the given values. -/
def expand (value? : String → Option String) : Piece → List Char
  | .text chars => chars
  | .placeholder name =>
    match value? (String.ofList name) with
    | some value => value.toList
    | none => (Piece.placeholder name).write

end Piece

/-- How a list of pieces is written. -/
def write (pieces : List Piece) : List Char := pieces.flatMap Piece.write

/-- What a list of pieces becomes under the given values. -/
def expand (value? : String → Option String) (pieces : List Piece) : List Char :=
  pieces.flatMap (Piece.expand value?)

/-- The text before the first opening `${` and the text after it. -/
def cutAtOpening : List Char → Option (List Char × List Char)
  | [] => none
  | '$' :: '{' :: rest => some ([], rest)
  | c :: rest => (cutAtOpening rest).map fun cut => (c :: cut.1, cut.2)

/-- The text before the first closing `}` and the text after it. -/
def cutAtClosing : List Char → Option (List Char × List Char)
  | [] => none
  | '}' :: rest => some ([], rest)
  | c :: rest => (cutAtClosing rest).map fun cut => (c :: cut.1, cut.2)

theorem eq_of_cutAtOpening {s a b : List Char} (h : cutAtOpening s = some (a, b)) :
    s = a ++ '$' :: '{' :: b := by
  fun_induction cutAtOpening s generalizing a with
  | case1 => simp at h
  | case2 rest => simp_all
  | case3 c rest _ ih =>
    obtain ⟨⟨a', b'⟩, hcut, heq⟩ := Option.map_eq_some_iff.mp h
    simp only [Prod.mk.injEq] at heq
    obtain ⟨rfl, rfl⟩ := heq
    simp [ih hcut]

theorem eq_of_cutAtClosing {s a b : List Char} (h : cutAtClosing s = some (a, b)) :
    s = a ++ '}' :: b := by
  fun_induction cutAtClosing s generalizing a with
  | case1 => simp at h
  | case2 rest => simp_all
  | case3 c rest _ ih =>
    obtain ⟨⟨a', b'⟩, hcut, heq⟩ := Option.map_eq_some_iff.mp h
    simp only [Prod.mk.injEq] at heq
    obtain ⟨rfl, rfl⟩ := heq
    simp [ih hcut]

/-- The bytes that a text takes in UTF-8. -/
def byteCount : List Char → Nat
  | [] => 0
  | c :: cs => c.utf8Size + byteCount cs

/-- Puts characters in front of a template, which gains a piece unless there are none. -/
def consText : List Char → List Piece → List Piece
  | [], pieces => pieces
  | chars, pieces => .text chars :: pieces

/-- The template that a text is the written form of, or the byte at which the first
placeholder without an end begins. -/
def read (s : List Char) : Except Nat (List Piece) :=
  match _hopen : cutAtOpening s with
  | none => .ok (consText s [])
  | some (before, inside) =>
    match _hclose : cutAtClosing inside with
    | none => .error (byteCount before)
    | some (name, rest) =>
      match read rest with
      | .ok pieces => .ok (consText before (.placeholder name :: pieces))
      | .error offset =>
        .error (byteCount before + byteCount (Piece.placeholder name).write + offset)
termination_by s.length
decreasing_by
  have h₁ := congrArg List.length (eq_of_cutAtOpening _hopen)
  have h₂ := congrArg List.length (eq_of_cutAtClosing _hclose)
  simp only [List.length_append, List.length_cons] at h₁ h₂
  omega

/-- Substitution by expanding the text as a template. -/
def substitutor : Substitutor := fun store text =>
  match read text.toList with
  | .ok pieces => .ok (String.ofList (expand store.get? pieces))
  | .error offset => .error (.unterminated text offset)

@[simp] theorem write_nil : write [] = [] := rfl

@[simp] theorem write_cons (p : Piece) (ps : List Piece) : write (p :: ps) = p.write ++ write ps :=
  rfl

@[simp] theorem expand_nil (value? : String → Option String) : expand value? [] = [] := rfl

@[simp] theorem expand_cons (value? : String → Option String) (p : Piece) (ps : List Piece) :
    expand value? (p :: ps) = p.expand value? ++ expand value? ps := rfl

@[simp] theorem write_consText (cs : List Char) (ps : List Piece) :
    write (consText cs ps) = cs ++ write ps := by
  cases cs <;> rfl

end Template

end SetupWizard
