import Catalog.CommandLine.Option

/-!
# Help pages

The texts on how the program and its commands are used.
-/

namespace Catalog.CommandLine

/-- The name of the program. -/
def programName : String := "catalog-server"

/-- The version of the program. -/
def programVersion : String := "0.1.0"

/-- What a help page is about. -/
inductive HelpPage where
  /-- The program. -/
  | program
  /-- A command. -/
  | command (command : Command)
  /-- The word that asks for help. -/
  | help
deriving DecidableEq

namespace HelpPage

/-- The word that asks for help. -/
def word : String := "help"

/-- What that word does. -/
def purpose : String := "Print this message or the help of the given subcommand(s)"

/-- What the program is for. -/
def summary : String := "Catalog Server - movie catalog with filterable, paginated collections"

/-- Two columns, with two blanks before each. -/
def table (rows : List (String × String)) : List String :=
  let width := (rows.map fun r => r.1.length).foldl max 0
  rows.map fun (left, right) =>
    "  " ++ left ++ String.ofList (List.replicate (width - left.length) ' ') ++ "  " ++ right

/-- An option at the left of a page that describes it. -/
def optionEntry (flag : Flag) : String :=
  match flag.letter? with
  | some c => String.ofList ['-', c, ',', ' '] ++ flag.pattern
  | none => "    " ++ flag.pattern

/-- How the program is called, with what may follow its name. -/
def usage (arguments : String) : String :=
  "Usage: " ++ programName ++ " " ++ arguments

/-- The rows for commands. -/
def commandRows : List (String × String) :=
  [Command.run, Command.check].map fun c => (c.word, c.purpose)

/-- The rows for options. -/
def optionRows (flags : List Flag) : List (String × String) :=
  flags.map fun flag => (optionEntry flag, flag.purpose)

/-- The lines of a page. -/
def lines : HelpPage → List String
  | program =>
    [summary, "", usage "[OPTIONS] [COMMAND]", "", "Commands:"] ++
      table (commandRows ++ [(word, purpose)]) ++ ["", "Options:"] ++ table (optionRows Flag.all)
  | command c =>
    [c.purpose, "", usage c.word, "", "Options:"] ++ table (optionRows [.switch .help])
  | help =>
    [purpose, "", usage (word ++ " [COMMAND]..."), "", "Arguments:"] ++
      table [("[COMMAND]...", "Print help for the subcommand(s)")]

end HelpPage

end Catalog.CommandLine
