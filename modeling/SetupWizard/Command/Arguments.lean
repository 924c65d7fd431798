/-
# Arguments of the command line

The command line names a command and a definition, for `run` with options.  An option takes its
value from the same argument, behind `=` or behind its letter, or from the argument that
follows; after `--` nothing is an option any more.

A value that has been read stays pending until the next option, or the end, calls for it: only
then is it looked at, so an argument that is unknown altogether is reported before a pending
value that is not acceptable.
-/
namespace SetupWizard

/-- What the command line asks for. -/
inductive Command where
  /-- Checks a definition. -/
  | validate (definition : String)
  /-- Lists the panels of a definition. -/
  | panels (definition : String)
  /-- Runs a definition unattended. -/
  | run (definition : String) (replay? record? : Option String) (skipValidation : Bool)
deriving DecidableEq

namespace Command

/-- Why the command line asks for nothing that can be done. -/
inductive Refusal where
  /-- Help was asked for. -/
  | helpAsked
  /-- The version was asked for. -/
  | versionAsked
  /-- There is no command, so help is offered. -/
  | nothingAsked
  /-- There is no such command. -/
  | unknownCommand
  /-- There is no such option, or there are too many arguments. -/
  | unknownArgument
  /-- The definition is not named. -/
  | missingArgument
  /-- An option has no value, or a path is empty. -/
  | invalidValue
  /-- An option is given twice. -/
  | repeated
  /-- A value is given to an option that takes none. -/
  | surplusValue
deriving DecidableEq

namespace Refusal

/-- The exit code of a refusal; asking for help is not an error. -/
def exitCode : Refusal → Nat
  | .helpAsked => 0
  | .versionAsked => 0
  | _ => 2

end Refusal

/-- The commands. -/
inductive Name where
  /-- Checks a definition. -/
  | validate
  /-- Lists the panels of a definition. -/
  | panels
  /-- Runs a definition unattended. -/
  | run
deriving DecidableEq

/-- The command with the given name. -/
def Name.ofString? : String → Option Name
  | "validate" => some .validate
  | "panels" => some .panels
  | "run" => some .run
  | _ => none

/-! ### How an argument looks -/

/-- What an argument looks like. -/
inductive Shape where
  /-- The mark behind which nothing is an option. -/
  | mark
  /-- An option with a long name, and perhaps a value in the same argument. -/
  | long (name : String) (value? : Option String)
  /-- Options with one letter each. -/
  | letters (letters : List Char)
  /-- Anything else. -/
  | plain

/-- The text before the first `=` and the text behind it, if there is one. -/
def cutAtEquals (cs : List Char) : String × Option String :=
  match cs.dropWhile (· != '=') with
  | [] => (String.ofList cs, none)
  | _ :: value => (String.ofList (cs.takeWhile (· != '=')), some (String.ofList value))

/-- What an argument looks like. -/
def Shape.of (arg : String) : Shape :=
  match arg.toList with
  | ['-', '-'] => .mark
  | '-' :: '-' :: rest => let (name, value?) := cutAtEquals rest; .long name value?
  | '-' :: c :: rest => .letters (c :: rest)
  | _ => .plain

/-! ### Arguments of a command -/

/-- What takes a value. -/
inductive Slot where
  /-- The path of the definition. -/
  | definition
  /-- The record to replay. -/
  | replay
  /-- Where the record of the run goes. -/
  | record
deriving DecidableEq

/-- What has been read of the arguments of a command. -/
structure Draft where
  /-- The path of the definition. -/
  definition? : Option String := none
  /-- The record to replay. -/
  replay? : Option String := none
  /-- Where the record of the run goes. -/
  record? : Option String := none
  /-- Whether validation is skipped. -/
  skipValidation : Bool := false
  /-- The value that has not been looked at, or the option that still lacks one. -/
  pending? : Option (Slot × Option String) := none
  /-- Whether an argument has been taken for the path of the definition. -/
  placed : Bool := false

namespace Draft

/-- The accepted value of a slot. -/
def value? (d : Draft) : Slot → Option String
  | .definition => d.definition?
  | .replay => d.replay?
  | .record => d.record?

/-- The draft with an accepted value. -/
def accept (d : Draft) (value : String) : Slot → Draft
  | .definition => { d with definition? := some value }
  | .replay => { d with replay? := some value }
  | .record => { d with record? := some value }

/-- Looks at a value for a slot. -/
def take (d : Draft) (slot : Slot) (value : String) : Except Refusal Draft :=
  if (d.value? slot).isSome then .error .repeated
  else if value = "" then .error .invalidValue
  else .ok (d.accept value slot)

/-- Looks at the pending value. -/
def settle (d : Draft) : Except Refusal Draft :=
  match d.pending? with
  | none => .ok d
  | some (_, none) => .error .invalidValue
  | some (slot, some value) => { d with pending? := none }.take slot value

/-- Meets an option that takes a value, with or without the value in the same argument. -/
def meetOption (d : Draft) (slot : Slot) (value? : Option String) : Except Refusal Draft :=
  match d.settle with
  | .error refusal => .error refusal
  | .ok d =>
    match value? with
    | some value => d.take slot value
    | none => .ok { d with pending? := some (slot, none) }

/-- Meets the option that skips validation. -/
def meetSkip (d : Draft) : Except Refusal Draft :=
  match d.settle with
  | .error refusal => .error refusal
  | .ok d => if d.skipValidation then .error .repeated else .ok { d with skipValidation := true }

/-- Meets the option that asks for help. -/
def meetHelp (d : Draft) : Except Refusal Draft :=
  match d.settle with
  | .error refusal => .error refusal
  | .ok _ => .error .helpAsked

/-- Meets an option with a long name. -/
def meetLong (name : Name) (d : Draft) (option : String) (value? : Option String) :
    Except Refusal Draft :=
  match option, value?, name with
  | "help", none, _ => d.meetHelp
  | "help", some _, _ => .error .surplusValue
  | "replay", _, .run => d.meetOption .replay value?
  | "record", _, .run => d.meetOption .record value?
  | "skip-validation", none, .run => d.meetSkip
  | "skip-validation", some _, .run => .error .surplusValue
  | _, _, _ => .error .unknownArgument

/-- Meets options with one letter each; each of them ends the argument. -/
def meetLetters (name : Name) (d : Draft) (letters : List Char) : Except Refusal Draft :=
  match letters, name with
  | 'h' :: _, _ => d.meetHelp
  | ['r'], .run => d.meetOption .replay none
  | 'r' :: '=' :: value, .run => d.meetOption .replay (some (String.ofList value))
  | 'r' :: value, .run => d.meetOption .replay (some (String.ofList value))
  | _, _ => .error .unknownArgument

/-- Meets an argument that can only be the path of the definition. -/
def meetPath (d : Draft) (arg : String) : Except Refusal Draft :=
  if d.placed then .error .unknownArgument
  else
    match d.settle with
    | .error refusal => .error refusal
    | .ok d => .ok { d with pending? := some (.definition, some arg), placed := true }

/-- Meets an argument that is no option. -/
def meetPlain (d : Draft) (arg : String) : Except Refusal Draft :=
  match d.pending? with
  | some (slot, none) => .ok { d with pending? := some (slot, some arg) }
  | _ => d.meetPath arg

/-- Meets one argument. -/
def meet (name : Name) (d : Draft) (arg : String) : Except Refusal Draft :=
  match Shape.of arg with
  | .long option value? => d.meetLong name option value?
  | .letters letters => d.meetLetters name letters
  | _ => d.meetPlain arg

/-- Meets the arguments of a command; `open'` says that options are still recognised. -/
def meetAll (name : Name) : Bool → Draft → List String → Except Refusal Draft
  | _, d, [] => .ok d
  | true, d, arg :: args =>
    match Shape.of arg with
    | .mark => meetAll name false d args
    | _ =>
      match d.meet name arg with
      | .ok d => meetAll name true d args
      | .error refusal => .error refusal
  | false, d, arg :: args =>
    match d.meetPath arg with
    | .ok d => meetAll name false d args
    | .error refusal => .error refusal

/-- The command whose arguments have been read. -/
def command (name : Name) (d : Draft) : Except Refusal Command :=
  match d.settle with
  | .error refusal => .error refusal
  | .ok d =>
    match d.definition?, name with
    | none, _ => .error .missingArgument
    | some path, .validate => .ok (.validate path)
    | some path, .panels => .ok (.panels path)
    | some path, .run => .ok (.run path d.replay? d.record? d.skipValidation)

end Draft

/-- Reads the arguments of a command. -/
def ofArguments (name : Name) (args : List String) : Except Refusal Command :=
  match Draft.meetAll name true {} args with
  | .ok d => d.command name
  | .error refusal => .error refusal

/-! ### The whole command line -/

/-- What asking for help about the named commands leads to: there are no commands inside
commands. -/
def help : List String → Refusal
  | [] => .helpAsked
  | [arg] => if arg = "help" ∨ (Name.ofString? arg).isSome then .helpAsked else .unknownCommand
  | _ => .unknownCommand

/-- What an option in front of the command leads to. -/
def outerOption (arg : String) : Refusal :=
  match Shape.of arg with
  | .long "help" none => .helpAsked
  | .long "version" none => .versionAsked
  | .long "help" (some _) => .surplusValue
  | .long "version" (some _) => .surplusValue
  | .letters ('h' :: _) => .helpAsked
  | .letters ('V' :: _) => .versionAsked
  | .long _ _ => .unknownArgument
  | .letters _ => .unknownArgument
  | _ => .unknownCommand

/-- Reads a command line, without the name of the program. -/
def parse : List String → Except Refusal Command
  | [] => .error .nothingAsked
  | ["--"] => .error .nothingAsked
  | "--" :: arg :: _ =>
    -- a command behind the mark is not one, but it is recognised as misplaced
    if arg = "help" ∨ (Name.ofString? arg).isSome then .error .unknownArgument
    else .error .unknownCommand
  | "help" :: args => .error (help args)
  | arg :: args =>
    match Name.ofString? arg with
    | some name => ofArguments name args
    | none => .error (outerOption arg)

end Command

end SetupWizard
