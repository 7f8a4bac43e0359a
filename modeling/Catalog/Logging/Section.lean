import Catalog.Json.Decode

/-!
# Log sections

Settings of logging, by the name of the part of the program that they are for. The section named
`default` is for all parts that have none, and it alone names the log file.
-/

namespace Catalog

/-- Log settings of one part of the program. -/
structure LogSection where
  /-- Threshold of the console. -/
  consoleLevel : String
  /-- The log file; a blank name is none. -/
  file : String := ""
  /-- Threshold of the log file. -/
  fileLevel : String := ""
  /-- Size beyond which the log file is rotated, in mebibytes. -/
  maxSizeMb : Option UInt64 := none
deriving DecidableEq

/-- Log settings by part of the program. -/
abbrev LogSettings := SortedMap LogSection

namespace LogSection

/-- The section for all parts that have none of their own. -/
def defaultName : String := "default"

/-- The shape of a section. -/
def shape : Json.RecordShape where
  name := "Section"
  fields :=
    [("console_level", Json.Decoder.string.check), ("file", Json.Decoder.string.check),
      ("file_level", Json.Decoder.string.check), ("max_size_mb", Json.Decoder.uint64.nullable.check)]

/-- Read a section, of which an array may have further items. -/
def decodeOpen : Json.Decoder LogSection := fun j => do
  let r ← shape.open j
  let consoleLevel ← r.required "console_level" .string
  let file ← r.optional "file" .string ""
  let fileLevel ← r.optional "file_level" .string ""
  let maxSizeMb ← r.optional "max_size_mb" (.nullable .uint64) none
  pure { consoleLevel, file, fileLevel, maxSizeMb }

/-- Read a section. -/
def decode : Json.Decoder LogSection := fun j => do
  let s ← decodeOpen j
  (← shape.open j).close s

/-- The JSON form of a section. -/
def toJson (s : LogSection) : Json :=
  .object [("console_level", .string s.consoleLevel), ("file", .string s.file),
    ("file_level", .string s.fileLevel),
    ("max_size_mb", (s.maxSizeMb.map fun n => Json.nat n.toNat).getD .null)]

/-- The section in force when nothing is configured. -/
def standard : LogSection where
  consoleLevel := "info"
  file := "logs/catalog.log"
  fileLevel := "debug"
  maxSizeMb := some 100

end LogSection

namespace LogSettings

/-- The settings in force when nothing is configured. -/
def standard : LogSettings := .ofList [(LogSection.defaultName, LogSection.standard)]

/-- Read log settings. -/
def decode : Json.Decoder LogSettings := .map LogSection.decode

/-- The JSON form of log settings. -/
def toJson (s : LogSettings) : Json := Json.ofMap s LogSection.toJson

end LogSettings

end Catalog
