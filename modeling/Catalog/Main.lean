import Catalog.CommandLine.Report
import Catalog.Time.Instant
import Std.Time.DateTime.Timestamp

/-!
# The program

Gives a run the files and the environment of the operating system, and writes what it reports.
-/

namespace Catalog.Disk

/-- What an error of the operating system means. -/
def fileError : IO.Error → FileError
  | .noFileOrDirectory .. => .notFound
  | .alreadyExists .. => .alreadyExists
  | e => .other (toString e)

/-- Do something that may fail. -/
def attempt {α : Type} (action : IO α) : IO (Except FileError α) := do
  match ← action.toBaseIO with
  | .ok a => return .ok a
  | .error e => return .error (fileError e)

/-- What a path leads to. -/
def kind? (path : String) : IO (Option FileKind) := do
  match ← attempt (IO.FS.realPath path) with
  | .error _ => return none
  | .ok real =>
    if ← real.isDir then return some .directory
    else if ← real.pathExists then return some .file
    else return none

/-- The names in a directory. -/
def entryNames (path : String) : IO (Except FileError (List String)) :=
  attempt do
    let entries ← (← IO.FS.realPath path).readDir
    return entries.toList.map (·.fileName)

/-- The files of the operating system. -/
def files : FileAccess IO where
  currentDirectory := return (← IO.currentDir).toString
  kind? := kind?
  readText path := attempt (IO.FS.readFile path)
  entryNames := entryNames
  makeDirectory path := attempt (IO.FS.createDir path)
  append path text := attempt (IO.FS.withFile path .append fun file => file.putStr text)

/-- A variable from its entry in the environment. An equals sign at the start belongs to the name. -/
def entryOf? : List Char → Option (String × String)
  | [] => none
  | first :: rest => (Text.splitFirst? '=' rest).map fun (name, text) =>
      (String.ofList (first :: name), String.ofList text)

/-- The environment of the program, in the order of the process. What is no text in an entry is
replaced, and leaves the other entries alone. -/
def environment : IO Environment := do
  match ← attempt (IO.FS.readBinFile "/proc/self/environ") with
  | .error _ => return ⟨[]⟩
  | .ok bytes =>
    let entries := bytes.toList.splitOn 0
    return ⟨entries.filterMap fun entry => entryOf? (Text.decodeLossy entry)⟩

/-- The present time as logs write it. -/
def timestamp : IO String := do
  let now ← Std.Time.Timestamp.now
  let micros := now.toNanosecondsSinceUnixEpoch.toInt / 1000
  return Instant.render ⟨micros / 1000000, (micros % 1000000).toNat * 1000, by omega⟩

/-- Write what a run reports. -/
def publish (report : CommandLine.Report) : IO UInt32 := do
  for item in report.output do
    match item with
    | .event e => IO.println (e.consoleLine (← timestamp))
    | .line text => IO.println text
  if let some path := report.logFile then
    for e in report.logged do
      let _ ← files.append path (e.fileLine (← timestamp))
  for line in report.errors do
    IO.eprintln line
  return report.exitCode.toUInt32

end Catalog.Disk

/-- Run the program with its arguments. -/
def main (arguments : List String) : IO UInt32 := do
  let environment ← Catalog.Disk.environment
  Catalog.Disk.publish (← Catalog.CommandLine.Report.ofArguments Catalog.Disk.files environment arguments)
