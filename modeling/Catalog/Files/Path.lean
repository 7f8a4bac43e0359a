import Catalog.Text.Ascii
import Catalog.Text.Split

/-!
# File paths

Paths are texts with slashes. Joining an absolute path to another one gives the absolute path.
Main statements: `isAbsolute_join` and `names_joinChars`.
-/

namespace Catalog.Path

/-- A path that starts at the root. -/
def isAbsoluteChars (cs : List Char) : Bool :=
  cs.head? == some '/'

/-- A path that starts at the root. -/
def isAbsolute (path : String) : Bool :=
  isAbsoluteChars path.toList

/-- The text between two joined paths: a slash, unless there is one or nothing stands before. -/
def joint (base : List Char) : List Char :=
  if base = [] ∨ base.getLast? = some '/' then [] else ['/']

/-- Join the characters of two paths. -/
def joinChars (base rest : List Char) : List Char :=
  if isAbsoluteChars rest then rest else base ++ joint base ++ rest

/-- The path `rest`, as seen from `base`. -/
def join (base rest : String) : String :=
  String.ofList (joinChars base.toList rest.toList)

theorem toList_join (base rest : String) :
    (join base rest).toList = joinChars base.toList rest.toList := by
  simp [join]

/-- The pieces of a path between its slashes; empty ones are kept. -/
def pieces (path : String) : List String :=
  (Text.splitOn '/' path.toList).map String.ofList

/-- Pieces that name something: `.` and the empty piece do not. -/
def isName (piece : List Char) : Bool :=
  piece != [] && piece != ['.']

/-- The names on the way from the start of a path to its end. -/
def names (cs : List Char) : List (List Char) :=
  (Text.splitOn '/' cs).filter isName

/-- The components of a path: a slash for the root, if it starts there, and its names. -/
def components (path : String) : List String :=
  (if isAbsolute path then ["/"] else []) ++ (names path.toList).map String.ofList

/-- The path of some components. -/
def ofComponents : List String → String
  | "/" :: names => "/" ++ String.intercalate "/" names
  | names => String.intercalate "/" names

/-- The path without its last component; neither the root nor the empty path has one. -/
def parent? (path : String) : Option String :=
  match components path with
  | [] => none
  | ["/"] => none
  | parts => some (ofComponents parts.dropLast)

/-- The proper ancestors of a path, from the nearest one to the first component. -/
def ancestors (path : String) : List String :=
  let parts := components path
  ((List.range parts.length).filter (0 < ·)).reverse.map fun n => ofComponents (parts.take n)

/-- A file name taken apart at its last point: stem and extension. A name whose only point stands
first has no extension. -/
def splitExtension (name : String) : String × Option String :=
  let back := name.toList.reverse
  match Text.splitFirst? '.' back with
  | some (extension, _ :: _) =>
    (String.ofList (back.drop (extension.length + 1)).reverse, some (String.ofList extension.reverse))
  | _ => (name, none)

/-! ## Laws of joining -/

theorem isAbsolute_join {base : String} (h : isAbsolute base = true) (rest : String) :
    isAbsolute (join base rest) = true := by
  simp only [isAbsolute, toList_join] at h ⊢
  unfold joinChars
  split
  · assumption
  · cases hb : base.toList with
    | nil => simp [hb, isAbsoluteChars] at h
    | cons c cs => simpa [hb, isAbsoluteChars] using h

/-- Names of two paths with a slash between them. -/
theorem names_append_slash (xs ys : List Char) : names (xs ++ '/' :: ys) = names xs ++ names ys := by
  simp [names, Text.splitOn_append_sep]

theorem names_nil : names [] = [] := by decide

theorem eq_dropLast_append {xs : List Char} {c : Char} (h : xs.getLast? = some c) :
    xs = xs.dropLast ++ [c] := by
  have hne : xs ≠ [] := by intro he; simp [he] at h
  rw [List.getLast?_eq_some_getLast hne] at h
  have hl := List.dropLast_concat_getLast hne
  rw [Option.some.inj h] at hl
  exact hl.symm

/-- A closing slash adds no name. -/
theorem names_dropLast_slash {xs : List Char} (h : xs.getLast? = some '/') :
    names xs = names xs.dropLast := by
  conv => lhs; rw [eq_dropLast_append h]
  simp [names_append_slash, names_nil]

/-- Joining a relative path appends its names. -/
theorem names_joinChars (base : List Char) {rest : List Char} (h : isAbsoluteChars rest = false) :
    names (joinChars base rest) = names base ++ names rest := by
  simp only [joinChars, h, joint]
  by_cases hb : base = []
  · simp [hb, names_nil]
  · by_cases hs : base.getLast? = some '/'
    · simp only [hs, or_true, if_true, Bool.false_eq_true, if_false, List.append_nil]
      conv => lhs; rw [eq_dropLast_append hs]
      rw [List.append_assoc, List.singleton_append, names_append_slash, names_dropLast_slash hs]
    · simp [hb, hs, names_append_slash]

end Catalog.Path
