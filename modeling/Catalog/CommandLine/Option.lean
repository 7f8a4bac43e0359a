import Catalog.Numeral

/-!
# Options of the command line

The options that the program takes, what an option changes, and why its value may be refused.
-/

namespace Catalog.CommandLine

/-- What the program can be asked to do. -/
inductive Command where
  /-- Start the server. -/
  | run
  /-- Check the configuration. -/
  | check
deriving DecidableEq

namespace Command

/-- The word for a command. -/
def word : Command → String
  | run => "run"
  | check => "check"

/-- What a command does. -/
def purpose : Command → String
  | run => "Start the server"
  | check => "Check configuration"

/-- The command of a word. -/
def ofWord? (s : String) : Option Command :=
  [run, check].find? fun c => c.word == s

end Command

/-- Options that take a value. -/
inductive ValueOption where
  /-- The configuration file. -/
  | config
  /-- The port that the server listens at. -/
  | port
deriving DecidableEq

/-- Options that stand alone. -/
inductive Switch where
  /-- Print the configuration and end. -/
  | printConfig
  /-- Log more. -/
  | verbose
  /-- Print how the program is used. -/
  | help
  /-- Print which version this is. -/
  | version
deriving DecidableEq

/-- An option. -/
inductive Flag where
  /-- An option that takes a value. -/
  | valued (option : ValueOption)
  /-- An option that stands alone. -/
  | switch (switch : Switch)
deriving DecidableEq

namespace Flag

/-- Every option. -/
def all : List Flag :=
  [valued .config, valued .port, switch .printConfig, switch .verbose, switch .help, switch .version]

/-- The name after two hyphens. -/
def name : Flag → String
  | valued .config => "config"
  | valued .port => "port"
  | switch .printConfig => "print-config"
  | switch .verbose => "verbose"
  | switch .help => "help"
  | switch .version => "version"

/-- The letter after one hyphen. -/
def letter? : Flag → Option Char
  | valued .config => some 'c'
  | valued .port => some 'p'
  | switch .printConfig => none
  | switch .verbose => some 'v'
  | switch .help => some 'h'
  | switch .version => some 'V'

/-- What an option is for. -/
def purpose : Flag → String
  | valued .config => "Path to configuration file"
  | valued .port => "Port for HTTP server (overrides config)"
  | switch .printConfig => "Print current configuration and exit"
  | switch .verbose => "Log verbosity level (-v debug, -vv trace)"
  | switch .help => "Print help"
  | switch .version => "Print version"

/-- An option as messages write it: with its value, or with points if it may come repeatedly. -/
def pattern : Flag → String
  | valued .config => "--config <CONFIG>"
  | valued .port => "--port <PORT>"
  | switch .verbose => "--verbose..."
  | flag => "--" ++ flag.name

/-- The option of a name. -/
def ofName? (s : String) : Option Flag :=
  all.find? fun flag => flag.name == s

/-- The option of a letter. -/
def ofLetter? (c : Char) : Option Flag :=
  all.find? fun flag => flag.letter? == some c

end Flag

/-- Why a text is no port. -/
inductive PortError where
  /-- The text is no integer of 64 bits. -/
  | numeral (cause : NumeralError)
  /-- The integer is not one of the ports. -/
  | outOfRange (n : Int64)

/-- The wording of each cause. -/
def PortError.message : PortError → String
  | numeral cause => cause.message
  | outOfRange n => toString n.toInt ++ " is not in 0..=65535"

/-- Read a port. -/
def readPort (s : String) : Except PortError UInt16 :=
  match Numeral.readInt64 s.toList with
  | .error e => .error (.numeral e)
  | .ok n =>
    if 0 ≤ n.toInt ∧ n.toInt < 65536 then .ok (UInt16.ofNat n.toInt.toNat) else .error (.outOfRange n)

/-- Why arguments are refused. -/
inductive UsageError where
  /-- An argument is not expected. -/
  | unexpectedArgument (text : String)
  /-- An option that stands alone has a value. -/
  | unexpectedValue (value : String) (switch : Switch)
  /-- An option lacks its value. -/
  | missingValue (option : ValueOption)
  /-- An option comes twice. -/
  | repeated (flag : Flag)
  /-- A text is no port. -/
  | invalidPort (text : String) (cause : PortError)
  /-- A word is no command. -/
  | unknownCommand (text : String)

/-- The wording of each cause. -/
def UsageError.message : UsageError → String
  | unexpectedArgument text => "unexpected argument '" ++ text ++ "' found"
  | unexpectedValue value switch =>
    "unexpected value '" ++ value ++ "' for '" ++ (Flag.switch switch).pattern ++
      "' found; no more were expected"
  | missingValue option =>
    "a value is required for '" ++ (Flag.valued option).pattern ++ "' but none was supplied"
  | repeated flag => "the argument '" ++ flag.pattern ++ "' cannot be used multiple times"
  | invalidPort text cause =>
    "invalid value '" ++ text ++ "' for '" ++ (Flag.valued .port).pattern ++ "': " ++ cause.message
  | unknownCommand text => "unrecognized subcommand '" ++ text ++ "'"

end Catalog.CommandLine
