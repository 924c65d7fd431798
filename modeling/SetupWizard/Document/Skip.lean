/-
# Passing over values

A record may hold fields that mean nothing here.  Their values are passed over: they must be
grammatical, but texts and numbers in them are not looked at any closer, and they may be nested
to any depth.  The brackets that are open are kept on a stack, the innermost first.
-/
import SetupWizard.Document.Quotation
import SetupWizard.Document.Number

namespace SetupWizard.Document

/-- The bracket of a value that holds others. -/
inductive Bracket where
  /-- The bracket of an array. -/
  | square
  /-- The bracket of an object. -/
  | curly
deriving DecidableEq

namespace Skip

/-- What passing over the next part of a value leads to. -/
inductive Outcome where
  /-- The outermost value has ended. -/
  | done (rest : Source)
  /-- A value is to follow, inside the given open brackets. -/
  | value (stack : List Bracket) (rest : Source)

/-- Passes over the key of an entry and the mark behind it. -/
def key (source : Source) : Except Fault Source :=
  match source.skipBlanks with
  | [] => .error .truncated
  | some '"' :: rest =>
    match Quotation.skip rest with
    | .error fault => .error fault
    | .ok rest =>
      match rest.skipBlanks with
      | [] => .error .truncated
      | some ':' :: rest => .ok rest
      | _ => .error .malformed
  | _ => .error .malformed

/-- Passes over the key of an entry, if the innermost bracket is one of an object. -/
def enter (stack : List Bracket) (source : Source) : Except Fault Outcome :=
  match stack with
  | .curly :: _ =>
    match key source with
    | .ok rest => .ok (.value stack rest)
    | .error fault => .error fault
  | _ => .ok (.value stack source)

/-- Passes over closing brackets behind a value, and the comma behind those. -/
def close : List Bracket → Source → Nat → Except Fault Outcome
  | [], source, _ => .ok (.done source)
  | _ :: _, _, 0 => .error .truncated
  | bracket :: stack, source, fuel + 1 =>
    match bracket, source.skipBlanks with
    | _, [] => .error .truncated
    | _, some ',' :: rest => enter (bracket :: stack) rest
    | .square, some ']' :: rest => close stack rest fuel
    | .curly, some '}' :: rest => close stack rest fuel
    | _, _ => .error .malformed

/-- Passes over an opening bracket, and over the closing one if nothing is between them. -/
def openBracket (bracket : Bracket) (stack : List Bracket) (source : Source) :
    Except Fault Outcome :=
  match bracket, source.skipBlanks with
  | _, [] => .error .truncated
  | .square, some ']' :: rest => close stack rest (rest.length + 1)
  | .curly, some '}' :: rest => close stack rest (rest.length + 1)
  | _, _ => enter (bracket :: stack) source

/-- Passes over a value up to the first value inside it, or up to the next value around it. -/
def step (stack : List Bracket) (source : Source) : Except Fault Outcome :=
  let closing (result : Except Fault Source) : Except Fault Outcome :=
    match result with
    | .ok rest => close stack rest (rest.length + 1)
    | .error fault => .error fault
  match source.skipBlanks with
  | [] => .error .truncated
  | some 'n' :: rest => closing ((Reader.word "ull".toList rest).map Prod.snd)
  | some 't' :: rest => closing ((Reader.word "rue".toList rest).map Prod.snd)
  | some 'f' :: rest => closing ((Reader.word "alse".toList rest).map Prod.snd)
  | some '"' :: rest => closing (Quotation.skip rest)
  | some '[' :: rest => openBracket .square stack rest
  | some '{' :: rest => openBracket .curly stack rest
  | s :: rest =>
    if Number.begins s then closing (Number.skip (s :: rest)) else .error .malformed

/-- Passes over values until the outermost has ended; the fuel bounds the number of values. -/
def run : Nat → List Bracket → Source → Except Fault Source
  | 0, _, _ => .error .truncated
  | fuel + 1, stack, source =>
    match step stack source with
    | .error fault => .error fault
    | .ok (.done rest) => .ok rest
    | .ok (.value stack rest) => run fuel stack rest

end Skip

/-- Passes over a value. -/
def skipValue (source : Source) : Except Fault Source :=
  Skip.run (source.length + 1) [] source

end SetupWizard.Document
