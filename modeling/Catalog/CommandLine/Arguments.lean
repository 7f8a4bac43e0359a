import Catalog.CommandLine.HelpPage
import Catalog.Text.Split

/-!
# Arguments

What the arguments of the program ask for. Options come before a command; after a command only a
request for help may follow. An option that takes its value from the next argument waits for it: it
takes effect, and its value is looked at, only when the next option does or when the arguments end.
-/

namespace Catalog.CommandLine

/-- What arguments ask for. -/
structure Arguments where
  /-- The configuration file. -/
  config : Option String := none
  /-- The port to listen at. -/
  port : Option UInt16 := none
  /-- Whether to print the configuration and end. -/
  printConfig : Bool := false
  /-- How often to log more was asked for. -/
  verbose : Nat := 0
  /-- What to do, if it is said. -/
  command : Option Command := none

/-- Why nothing is started. -/
inductive Refusal where
  /-- A help page is asked for. -/
  | help (page : HelpPage)
  /-- The version is asked for. -/
  | version
  /-- The arguments are refused. -/
  | usage (cause : UsageError)

/-- What an argument looks like. -/
inductive Word where
  /-- Two hyphens: no option comes after them. -/
  | escape
  /-- A name after two hyphens, and a value after an equals sign. -/
  | long (name : String) (value : Option String)
  /-- Characters after one hyphen. -/
  | cluster (letters : List Char)
  /-- Anything else. -/
  | plain

/-- What an argument looks like. -/
def Word.ofText (text : String) : Word :=
  match text.toList with
  | ['-', '-'] => .escape
  | '-' :: '-' :: body =>
    match Text.splitFirst? '=' body with
    | some (name, value) => .long (String.ofList name) (some (String.ofList value))
    | none => .long (String.ofList body) none
  | '-' :: c :: letters => .cluster (c :: letters)
  | _ => .plain

namespace Arguments

/-- Let an option with its value take effect. -/
def give (a : Arguments) (option : ValueOption) (value : String) : Except UsageError Arguments :=
  match option with
  | .config =>
    if a.config.isSome then .error (.repeated (.valued option))
    else if value.isEmpty then .error (.missingValue option)
    else .ok { a with config := some value }
  | .port =>
    if a.port.isSome then .error (.repeated (.valued option))
    else match readPort value with
      | .ok port => .ok { a with port := some port }
      | .error e => .error (.invalidPort value e)

/-- Let an option that stands alone take effect. -/
def turnOn (a : Arguments) (switch : Switch) : Except Refusal Arguments :=
  match switch with
  | .printConfig =>
    if a.printConfig then .error (.usage (.repeated (.switch switch)))
    else .ok { a with printConfig := true }
  | .verbose => .ok { a with verbose := a.verbose + 1 }
  | .help => .error (.help .program)
  | .version => .error .version

end Arguments

/-- The reading of arguments between two of them. -/
structure Reading where
  /-- What took effect. -/
  settled : Arguments := {}
  /-- An option that has not taken effect, and its value once it is there. -/
  pending : Option (ValueOption × Option String) := none

namespace Reading

/-- Let the pending option take effect. -/
def settle (r : Reading) : Except Refusal Arguments :=
  match r.pending with
  | none => .ok r.settled
  | some (option, none) => .error (.usage (.missingValue option))
  | some (option, some value) => (r.settled.give option value).mapError .usage

/-- The option that waits for its value. -/
def awaiting (r : Reading) : Option ValueOption :=
  match r.pending with
  | some (option, none) => some option
  | _ => none

/-- Take an option with a value that belongs to the same argument. -/
def attached (r : Reading) (option : ValueOption) (value : String) : Except Refusal Reading := do
  let a ← r.settle
  let a ← (a.give option value).mapError Refusal.usage
  pure { settled := a }

/-- Take an option whose value comes with the next argument. -/
def detached (r : Reading) (option : ValueOption) : Except Refusal Reading := do
  let a ← r.settle
  pure { settled := a, pending := some (option, none) }

/-- Take an option that stands alone. -/
def switched (r : Reading) (switch : Switch) : Except Refusal Reading := do
  let a ← r.settle
  let a ← a.turnOn switch
  pure { settled := a }

/-- Take a name after two hyphens. -/
def long (r : Reading) (name : String) (value : Option String) : Except Refusal Reading :=
  match Flag.ofName? name, value with
  | none, _ => .error (.usage (.unexpectedArgument ("--" ++ name)))
  | some (.valued option), some value => r.attached option value
  | some (.valued option), none => r.detached option
  | some (.switch switch), some value => .error (.usage (.unexpectedValue value switch))
  | some (.switch switch), none => r.switched switch

/-- Take the characters after one hyphen: options that stand alone, until one takes the rest as its
value, with or without an equals sign. -/
def cluster (r : Reading) : List Char → Except Refusal Reading
  | [] => .ok r
  | c :: rest =>
    match Flag.ofLetter? c, rest with
    | none, _ => .error (.usage (.unexpectedArgument (String.ofList ['-', c])))
    | some (.switch switch), _ => do (← r.switched switch).cluster rest
    | some (.valued option), [] => r.detached option
    | some (.valued option), '=' :: value => r.attached option (String.ofList value)
    | some (.valued option), value => r.attached option (String.ofList value)

end Reading

namespace Arguments

/-- The answer to a request for help on the given words. -/
def helpOn : List String → Refusal
  | [] => .help .program
  | [word] =>
    match Command.ofWord? word with
    | some c => .help (.command c)
    | none => if word = HelpPage.word then .help .help else .usage (.unknownCommand word)
  | word :: next :: _ =>
    if (Command.ofWord? word).isSome || word == HelpPage.word then .usage (.unknownCommand next)
    else .usage (.unknownCommand word)

/-- What is wrong with the first argument after a command and two hyphens. -/
def refuseAfter : List String → Except Refusal Unit
  | [] => .ok ()
  | text :: _ => .error (.usage (.unexpectedArgument text))

/-- Read what follows a command. -/
def readCommand (c : Command) : List String → Except Refusal Unit
  | [] => .ok ()
  | text :: rest =>
    let refuse (text : String) : Except Refusal Unit := .error (.usage (.unexpectedArgument text))
    match Word.ofText text with
    | .escape => refuseAfter rest
    | .long name value =>
      if name = (Flag.switch .help).name then
        match value with
        | none => .error (.help (.command c))
        | some value => .error (.usage (.unexpectedValue value .help))
      else refuse ("--" ++ name)
    | .cluster ('h' :: _) => .error (.help (.command c))
    | .cluster letters => refuse (String.ofList ('-' :: letters.take 1))
    | .plain => refuse text

/-- Read what follows two hyphens: no option, and no command either. -/
def readEscaped (r : Reading) : List String → Except Refusal Arguments
  | [] => r.settle
  | text :: _ =>
    if (Command.ofWord? text).isSome || text == HelpPage.word then
      .error (.usage (.unexpectedArgument text))
    else .error (.usage (.unknownCommand text))

/-- Read arguments one after the other: options, the values that options wait for, and at last a
command. -/
def readFrom (r : Reading) : List String → Except Refusal Arguments
  | [] => r.settle
  | text :: rest =>
    match r.awaiting, Command.ofWord? text, Word.ofText text with
    | none, some c, _ => do
      readCommand c rest
      let a ← r.settle
      pure { a with command := some c }
    | _, _, .escape => readEscaped r rest
    | _, _, .long name value => do readFrom (← r.long name value) rest
    | _, _, .cluster letters => do readFrom (← r.cluster letters) rest
    | some option, _, .plain => readFrom { r with pending := some (option, some text) } rest
    | none, none, .plain =>
      if text = HelpPage.word then .error (helpOn rest)
      else .error (.usage (.unknownCommand text))

/-- Read arguments. -/
def read (arguments : List String) : Except Refusal Arguments :=
  readFrom {} arguments

end Arguments

end Catalog.CommandLine
