import Catalog.Config.SettingText
import Catalog.Json.Overlay
import Catalog.Text.Split

/-!
# Settings from the environment

Variables whose names start with `APP__` name a setting by the words between double underscores. They
are taken in the order in which the process holds them, and the last one for a setting counts.
-/

namespace Catalog

/-- The environment of a process. -/
structure Environment where
  /-- The names and texts of its variables, in the order in which the process holds them. Nothing
  keeps a name from standing there twice. -/
  entries : List (String × String)
deriving Repr

/-- Variables that are given by name stand in the order of their names. -/
instance : Coe (SortedMap String) Environment where
  coe texts := ⟨texts.toList⟩

namespace Environment

/-- The text of a variable, which is that of the first one of the name. -/
def get? (env : Environment) (name : String) : Option String :=
  env.entries.lookup name

/-- What the names of settings start with, in any case. -/
def settingLead : String := "APP__"

/-- The words by which a variable names a setting, in small letters; `none` if it names none. -/
def settingWords? (name : String) : Option (List String) :=
  let cs := Text.trim name.toList
  let lead := settingLead.toList
  if Text.sameIgnoringCase (cs.take lead.length) lead then
    let rest := Text.replaceAll "__".toList ".".toList (cs.drop lead.length)
    let words := Text.splitOn '.' (Text.trim rest)
    if words.any List.isEmpty then none
    else some (words.map fun w => String.ofList (Text.lowerAscii w))
  else none

/-- All settings in the environment as one object. What a variable sets is laid over what those before
it set. -/
def settings (env : Environment) : Json :=
  env.entries.foldl (fun acc (name, text) =>
    match settingWords? name with
    | some words => acc.overlay (Json.nested words (SettingText.value text))
    | none => acc) (.object [])

end Environment

end Catalog
