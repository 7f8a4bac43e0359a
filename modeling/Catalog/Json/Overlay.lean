import Catalog.Json.Basic

/-!
# Laying objects over each other

The upper of two values wins, except that objects are merged key by key at every depth.
-/

namespace Catalog

/-- A value below a chain of keys. -/
def Json.nested : List String → Json → Json
  | [], value => value
  | key :: keys, value => .object [(key, Json.nested keys value)]

mutual

/-- Lay a value over another one: objects key by key, anything else replaces. -/
def Json.overlay : (base top : Json) → Json
  | .object base, .object top => .object (Json.overlayFields base top)
  | _, .null => .null
  | _, .bool b => .bool b
  | _, .number n => .number n
  | _, .string s => .string s
  | _, .array items => .array items
  | _, .object fields => .object fields

/-- Lay fields one after the other over those of an object. -/
def Json.overlayFields (base : Json.Fields) : Json.Fields → Json.Fields
  | [] => base
  | (key, value) :: rest =>
    let merged := match base.lookup key with
      | some old => Json.overlay old value
      | none => value
    Json.overlayFields (SortedMap.insertEntry key merged base) rest

end

end Catalog
