/-!
# Command lines

The shape of a command line: options with a short and a long name, positional arguments, and
subcommands with arguments of their own.  Reading goes word by word.  The values of an argument are
checked when the next argument begins, so of two faults the one that is met first in this order counts.

* `Usage`            what is wrong with a command line, or what it asks to be shown instead;
* `Argument`, `Grammar`  what a command line may hold;
* `Grammar.read`     the values in a list of words;
* `Reading.value?`   the value of an argument.
-/

namespace FlashRescue.CommandLine

inductive Usage where
  | missingRequiredArgument
  | missingSubcommand
  | invalidSubcommand
  | unknownArgument
  /-- the value of an argument does not have the right form -/
  | valueValidation
  /-- an argument has no value, or an empty one -/
  | invalidValue
  /-- an argument is given twice -/
  | argumentConflict
  /-- a flag is given a value -/
  | tooManyValues
  | displayHelp
  | displayVersion
  | displayHelpOnMissing
  deriving DecidableEq, Repr

/-- the wording of what is wrong; nothing is wrong where something is to be shown -/
def Usage.message? : Usage → Option String
  | missingRequiredArgument => some "a required argument is missing"
  | missingSubcommand => some "a subcommand is required"
  | invalidSubcommand => some "there is no such subcommand"
  | unknownArgument => some "there is no such argument"
  | valueValidation => some "a value does not have the right form"
  | invalidValue => some "an argument needs a value"
  | argumentConflict => some "an argument is given twice"
  | tooManyValues => some "a flag takes no value"
  | displayHelp | displayVersion | displayHelpOnMissing => none

/-- what an argument takes -/
inductive Kind where
  /-- nothing, it is there or not -/
  | flag
  /-- one value, which is checked -/
  | value (check : String → Except Usage Unit)
  | help
  | version

/-- an argument: an option if it has a short or a long name, and positional otherwise -/
structure Argument where
  id : String
  short : Option Char := none
  long : Option String := none
  kind : Kind
  required : Bool := false

namespace Argument

def positional (a : Argument) : Bool := a.short.isNone && a.long.isNone

def help : Argument := { id := "help", short := some 'h', long := some "help", kind := .help }

def version : Argument :=
  { id := "version", short := some 'V', long := some "version", kind := .version }

end Argument

/-- the arguments of a command and the names of its subcommands -/
structure Grammar where
  arguments : List Argument
  subcommands : List String := []

/-! ## State of a reader -/

/-- how far a command line was read -/
structure Reading where
  /-- the arguments that are done, with their values -/
  values : List (String × String) := []
  /-- the argument whose values are still to be checked -/
  pending : Option (Argument × List String) := none
  /-- whether the next word is the value of the pending option -/
  expecting : Bool := false
  /-- the positional arguments that were given -/
  places : Nat := 0
  /-- whether `--` was met, after which no word is an option or a subcommand -/
  literal : Bool := false

namespace Reading

def value? (r : Reading) (id : String) : Option String := r.values.lookup id

/-- takes an argument with its values into account -/
def take (r : Reading) (a : Argument) (values : List String) : Except Usage Reading :=
  let done (value : String) : Reading := { r with values := r.values ++ [(a.id, value)] }
  let once : Except Usage Unit :=
    if (r.value? a.id).isSome then .error .argumentConflict else .ok ()
  match a.kind, values with
  | .help, _ => .error .displayHelp
  | .version, _ => .error .displayVersion
  | .flag, _ => do
    once
    return done ""
  | .value _, [] => .error .invalidValue
  | .value check, value :: _ => do
    once
    check value
    return done value

def settle (r : Reading) : Except Usage Reading :=
  match r.pending with
  | some (a, values) => { r with pending := none }.take a values
  | none => .ok r

def complete (r : Reading) (a : Argument) (values : List String) : Except Usage Reading := do
  (← r.settle).take a values

def begin (r : Reading) (a : Argument) (values : List String) : Except Usage Reading := do
  return { ← r.settle with pending := some (a, values) }

end Reading

namespace Grammar

/-! ## Options -/

/-- an option with its long name, and the value after an equals sign -/
def readLong (g : Grammar) (name : String) (attached : Option String) (r : Reading) :
    Except Usage Reading :=
  match g.arguments.find? (·.long = some name) with
  | none => .error .unknownArgument
  | some a =>
    match a.kind, attached with
    | .value _, some value => r.complete a [value]
    | .value _, none => do return { ← r.begin a [] with expecting := true }
    | _, some _ => .error .tooManyValues
    | _, none => r.complete a []

/-- options with their short names, the last of which may have a value attached -/
def readShort (g : Grammar) : List Char → Reading → Except Usage Reading
  | [], r => .ok r
  | c :: rest, r =>
    match g.arguments.find? (·.short = some c) with
    | none => .error .unknownArgument
    | some a =>
      match a.kind, rest with
      | .value _, [] => do return { ← r.begin a [] with expecting := true }
      | .value _, '=' :: value => r.complete a [String.ofList value]
      | .value _, value => r.complete a [String.ofList value]
      | _, rest => do readShort g rest (← r.complete a [])

/-! ## Words -/

/-- a word in a place of its own -/
def readPlace (g : Grammar) (word : String) (r : Reading) : Except Usage Reading :=
  match (g.arguments.filter (·.positional))[r.places]? with
  | some a => do return { ← r.begin a [word] with places := r.places + 1 }
  | none =>
    if g.subcommands.isEmpty || (r.literal && g.subcommands.contains word) then
      .error .unknownArgument
    else .error .invalidSubcommand

/-- the words after a subcommand for help, which name a subcommand that is to be explained -/
def readHelp (g : Grammar) : List String → Usage
  | [] => .displayHelp
  | [name] => if g.subcommands.contains name then .displayHelp else .invalidSubcommand
  | _ => .invalidSubcommand

/-- reads words up to a subcommand, and gives the words from there on -/
def readWords (g : Grammar) : List String → Reading → Except Usage (Reading × List String)
  | [], r => .ok (r, [])
  | word :: rest, r =>
    if r.literal then do readWords g rest (← g.readPlace word r)
    else if !r.expecting && g.subcommands.contains word then
      if word = "help" then .error (g.readHelp rest) else .ok (r, word :: rest)
    else match word.toList with
      | ['-', '-'] => readWords g rest { r with literal := true }
      | '-' :: '-' :: long => do
        let name := String.ofList (long.takeWhile (· != '='))
        let attached := match long.dropWhile (· != '=') with
          | [] => none
          | _ :: value => some (String.ofList value)
        readWords g rest (← g.readLong name attached { r with expecting := false })
      | '-' :: c :: cs => do
        readWords g rest (← g.readShort (c :: cs) { r with expecting := false })
      | _ =>
        match r.expecting, r.pending with
        | true, some (a, values) =>
          readWords g rest { r with pending := some (a, values ++ [word]), expecting := false }
        | _, _ => do readWords g rest (← g.readPlace word r)

/-- an error unless all required arguments were given -/
def checkRequired (g : Grammar) (r : Reading) : Except Usage Unit :=
  if g.arguments.all fun a => !a.required || (r.value? a.id).isSome then .ok ()
  else .error .missingRequiredArgument

def read (g : Grammar) (words : List String) : Except Usage Reading := do
  let (r, _) ← g.readWords words {}
  let r ← r.settle
  g.checkRequired r
  return r

/-- reads a command line that needs one of its subcommands, whose words `readRest` reads; its faults
count before the ones that only show at the end -/
def readWith {α : Type} (g : Grammar) (readRest : String → List String → Except Usage α)
    (words : List String) : Except Usage (Reading × α) := do
  match ← g.readWords words {} with
  | (r, []) =>
    let r ← r.settle
    if r.values.isEmpty then .error .displayHelpOnMissing else .error .missingSubcommand
  | (r, name :: rest) =>
    let value ← readRest name rest
    let r ← r.settle
    g.checkRequired r
    return (r, value)

/-! ## Help -/

/-- an argument as it is written on a command line -/
def describeArgument (a : Argument) : String :=
  let value := match a.kind with
    | .value _ => " <" ++ a.id.toUpper ++ ">"
    | _ => ""
  match a.short, a.long with
  | some c, some name => "-" ++ c.toString ++ ", --" ++ name ++ value
  | some c, none => "-" ++ c.toString ++ value
  | none, some name => "--" ++ name ++ value
  | none, none => "<" ++ a.id.toUpper ++ ">"

def describe (g : Grammar) : String :=
  let lines := g.subcommands ++ g.arguments.map describeArgument
  String.join (lines.map fun line => "  " ++ line ++ "\n")

end Grammar

end FlashRescue.CommandLine
