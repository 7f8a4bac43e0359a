import Catalog.Json.Printer
import Catalog.Logging.Level

/-!
# Log events

An event has a level, a target, a message and named values. On the console it is one line; in the
log file it is one JSON object on a line.
-/

namespace Catalog

/-- A log event. -/
structure LogEvent where
  /-- Its level. -/
  level : LogLevel
  /-- The part of the program that it comes from. -/
  target : String
  /-- What it says. -/
  message : String
  /-- Named values that belong to it. -/
  values : List (String × Json) := []

namespace LogEvent

/-- A named value as it stands on the console: texts without quotation marks. -/
def valueText (name : String) (value : Json) : String :=
  match value with
  | .string s => name ++ "=" ++ s
  | other => name ++ "=" ++ other.render

/-- The console line of an event, after its time. -/
def render (e : LogEvent) : String :=
  e.level.name ++ " " ++ e.target ++ ": " ++
    String.intercalate " " (e.message :: e.values.map fun (name, value) => valueText name value)

/-- The console line of an event. Names of levels end in one column. -/
def consoleLine (time : String) (e : LogEvent) : String :=
  time ++ String.ofList (List.replicate (6 - e.level.name.length) ' ') ++ e.render

/-- The JSON form of an event, without its time. -/
def fields (e : LogEvent) : Json.Fields :=
  [("level", .string e.level.name),
    ("fields", .object (("message", .string e.message) :: e.values)), ("target", .string e.target)]

/-- The line of an event in the log file. -/
def fileLine (time : String) (e : LogEvent) : String :=
  (Json.object (("timestamp", .string time) :: e.fields)).render ++ "\n"

end LogEvent

end Catalog
