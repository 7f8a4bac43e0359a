import Catalog.Logging.Level
import Catalog.Logging.Section
import Catalog.Text.Split

/-!
# What is logged where

The threshold for an event is that of the section whose name is the longest one that its target
starts with, and the default section's if there is none.
-/

namespace Catalog

/-- Thresholds by the start of a target. -/
structure LogTargets where
  /-- The threshold of targets that no name is the start of. -/
  default : LevelFilter
  /-- Thresholds by name. -/
  named : List (String × LevelFilter)

namespace LogTargets

/-- Whether a target starts with a name. -/
def covers (name target : String) : Bool :=
  (Text.dropLead? name.toList target.toList).isSome

/-- Of two named thresholds the one of the longer name, if both cover the target. -/
def moreSpecific (target : String) (best : Option (String × LevelFilter))
    (next : String × LevelFilter) : Option (String × LevelFilter) :=
  if covers next.1 target then
    match best with
    | some found => if found.1.utf8ByteSize < next.1.utf8ByteSize then some next else some found
    | none => some next
  else best

/-- The threshold for a target. -/
def filterFor (t : LogTargets) (target : String) : LevelFilter :=
  match t.named.foldl (moreSpecific target) none with
  | some found => found.2
  | none => t.default

/-- Whether an event is let through. -/
def enables (t : LogTargets) (target : String) (level : LogLevel) : Bool :=
  (t.filterFor target).allows level

/-- The thresholds of some sections, whose level texts `pick` selects. A blank text stands for the
default section's threshold, which is `info` without such a section. -/
def ofSections (pick : LogSection → String) (sections : List (String × LogSection)) : LogTargets :=
  let default := ((sections.lookup LogSection.defaultName).map fun s => LevelFilter.ofText (pick s)).getD
    (.upTo .info)
  { default
    named := (sections.filter fun s => s.1 != LogSection.defaultName).map fun (name, s) =>
      (name, if Text.allBlank (pick s) then default else LevelFilter.ofText (pick s)) }

/-- The thresholds of the console. -/
def console (settings : LogSettings) : LogTargets :=
  ofSections LogSection.consoleLevel settings.toList

/-- The thresholds of the log file. -/
def file (settings : LogSettings) : LogTargets :=
  ofSections LogSection.fileLevel settings.toList

end LogTargets

end Catalog
