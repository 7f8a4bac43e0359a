import Catalog.Text.Ascii
import Catalog.Text.Blank

/-!
# Log levels

Five levels of events and six thresholds, of which a higher one lets more through.
-/

namespace Catalog

/-- The level of an event. -/
inductive LogLevel where
  /-- Something failed. -/
  | error
  /-- Something is out of order. -/
  | warn
  /-- What happens. -/
  | info
  /-- How it happens. -/
  | debug
  /-- Every detail. -/
  | trace
deriving DecidableEq

namespace LogLevel

/-- How much an event of a level asks of a threshold. -/
def rank : LogLevel → Nat
  | error => 1
  | warn => 2
  | info => 3
  | debug => 4
  | trace => 5

/-- The name of a level in logs. -/
def name : LogLevel → String
  | error => "ERROR"
  | warn => "WARN"
  | info => "INFO"
  | debug => "DEBUG"
  | trace => "TRACE"

/-- The level of a name. -/
def ofName? (s : String) : Option LogLevel :=
  [error, warn, info, debug, trace].find? fun level => level.name == s

end LogLevel

/-- A threshold: nothing passes, or events up to a level. -/
inductive LevelFilter where
  /-- No event passes. -/
  | off
  /-- Events up to a level pass. -/
  | upTo (level : LogLevel)
deriving DecidableEq

namespace LevelFilter

/-- How much passes. -/
def rank : LevelFilter → Nat
  | off => 0
  | upTo level => level.rank

/-- Whether an event of a level passes. -/
def allows (filter : LevelFilter) (level : LogLevel) : Bool :=
  level.rank ≤ filter.rank

/-- The threshold that a text asks for, up to blanks around it and the case of its letters. A text
that is no name of a threshold asks for `info`. -/
def ofText (s : String) : LevelFilter :=
  match String.ofList (Text.lowerAscii (Text.trim s.toList)) with
  | "trace" => upTo .trace
  | "debug" => upTo .debug
  | "info" => upTo .info
  | "warn" => upTo .warn
  | "error" => upTo .error
  | "off" => off
  | "none" => off
  | _ => upTo .info

/-- The name of a threshold. -/
def name : LevelFilter → String
  | off => "off"
  | upTo level => String.ofList (Text.lowerAscii level.name.toList)

end LevelFilter

end Catalog
