import Catalog.Files.Access
import Catalog.Logging.Section
import Catalog.Text.Blank

/-!
# The log file

The default section names the log file, as seen from the home directory, and the size beyond which
it is rotated. Opening it makes the directories above it.
-/

namespace Catalog

/-- What came of opening the log file. -/
inductive LogOpening where
  /-- No log file is configured. -/
  | disabled
  /-- The file is open. -/
  | opened (path : String)
  /-- A directory above it cannot be made. -/
  | failed (path : String) (cause : FileError)
  /-- The settings are such that the program cannot go on. -/
  | crashed (path : String)

namespace LogFile

/-- The size limit when none is configured, in mebibytes. -/
def defaultMaxSizeMb : UInt64 := 100

/-- The size limit of a section in bytes, in arithmetic of 64 bits. -/
def limit (s : LogSection) : UInt64 :=
  s.maxSizeMb.getD defaultMaxSizeMb * 1024 * 1024

/-- The path of a log file, as seen from a directory. -/
def resolve (file base : String) : String :=
  Path.join base file

/-- The section that names the log file, if one does. -/
def section? (settings : LogSettings) : Option LogSection :=
  (settings.get? LogSection.defaultName).filter fun s => !Text.allBlank s.file

/-- Whether a path ends in the name of a file. -/
def hasFileName (path : String) : Bool :=
  match (Path.components path).getLast? with
  | none => false
  | some name => name != "/" && name != ".."

variable {m : Type → Type} [Monad m]

/-- Open the log file below a directory. A limit of zero bytes, and a path without a file name,
are not survived. -/
def «open» (files : FileAccess m) (settings : LogSettings) (base : String) : m LogOpening := do
  match section? settings with
  | none => return .disabled
  | some s =>
    let path := resolve s.file base
    let made ← match Path.parent? path with
      | some parent => files.createDirectories parent
      | none => pure (.ok ())
    match made with
    | .error e => return .failed path e
    | .ok () =>
      if limit s = 0 || !hasFileName path then return .crashed path
      else
        -- A path that cannot be written to is open nevertheless: its events are lost.
        let _ ← files.append path ""
        return .opened path

end LogFile

end Catalog
