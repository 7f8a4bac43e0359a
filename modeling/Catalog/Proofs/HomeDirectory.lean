import Catalog.Config.HomePath
import Mathlib.Data.List.Infix

/-!
# Where the home directory is

The home directory of the server is an absolute path, and configuring this path gives it again. A
path behind a tilde leads to a directory below that of the user, unless it starts with a slash
itself: an absolute path takes the place of all that it is joined to.

## Key results

- `Path.names_absolute_join`: joining a relative path keeps the names in front
- `HomePath.expand_tilde`: what a tilde is expanded to
- `HomePath.resolve_below_iff`: when the home directory is below that of the user
- `HomePath.exists_tilde_lost`: a path behind a tilde that leads elsewhere
-/

namespace Catalog

/-! ## Paths below a directory -/

namespace Path

/-- A path that goes through all components of another one first. -/
def IsBelow (path directory : String) : Prop :=
  components directory <+: components path

instance (path directory : String) : Decidable (IsBelow path directory) :=
  inferInstanceAs (Decidable (_ <+: _))

/-- Joined relative paths are relative. -/
theorem isAbsolute_join_of_relative {base rest : String} (hbase : isAbsolute base = false)
    (hrest : isAbsolute rest = false) : isAbsolute (join base rest) = false := by
  simp only [isAbsolute, toList_join] at hbase hrest ⊢
  rw [joinChars, hrest, if_neg Bool.false_ne_true]
  cases hchars : base.toList with
  | nil => simpa [joint] using hrest
  | cons c cs => simpa [hchars, isAbsoluteChars] using hbase

/-- A joined absolute path takes the place of the other one. -/
theorem join_of_isAbsolute {rest : String} (h : isAbsolute rest = true) (base : String) :
    join base rest = rest := by
  rw [isAbsolute] at h
  rw [join, joinChars, if_pos h, String.ofList_toList]

/-- Joining a relative path appends its names. -/
theorem names_join (base : String) {rest : String} (h : isAbsolute rest = false) :
    names (join base rest).toList = names base.toList ++ names rest.toList := by
  rw [toList_join]
  exact names_joinChars base.toList h

theorem components_of_isAbsolute {path : String} (h : isAbsolute path = true) :
    components path = "/" :: (names path.toList).map String.ofList := by
  simp [components, h]

end Path

namespace HomePath

open Catalog.Path

variable {currentDirectory : String}

theorem absolute_of_isAbsolute {path : String} (h : isAbsolute path = true)
    (currentDirectory : String) : absolute currentDirectory path = path := by
  rw [absolute, if_pos h]

/-- Behind a joined relative path, the components of the directory stay, as seen from wherever. -/
theorem names_absolute_join (base : String) {rest : String} (hrest : isAbsolute rest = false) :
    names (absolute currentDirectory (join base rest)).toList =
      names (absolute currentDirectory base).toList ++ names rest.toList := by
  by_cases hbase : isAbsolute base = true
  · rw [absolute_of_isAbsolute hbase, absolute_of_isAbsolute (isAbsolute_join hbase rest)]
    exact names_join base hrest
  · -- both are seen from the current directory
    rw [Bool.not_eq_true] at hbase
    have hjoined := isAbsolute_join_of_relative hbase hrest
    rw [absolute, absolute, hbase, hjoined, if_neg Bool.false_ne_true, if_neg Bool.false_ne_true,
      names_join _ hjoined, names_join _ hbase, names_join _ hrest, List.append_assoc]

theorem isBelow_absolute_join (hcurrent : isAbsolute currentDirectory = true) (base : String)
    {rest : String} (hrest : isAbsolute rest = false) :
    IsBelow (absolute currentDirectory (join base rest)) (absolute currentDirectory base) := by
  rw [IsBelow, components_of_isAbsolute (isAbsolute_absolute hcurrent base),
    components_of_isAbsolute (isAbsolute_absolute hcurrent _), names_absolute_join base hrest,
    List.map_append, ← List.cons_append]
  exact List.prefix_append _ _

/-! ## Tildes -/

/-- A configured text that starts with a tilde, and the path behind it. -/
inductive Tilde : (text rest : String) → Prop where
  | alone : Tilde "~" ""
  | slash (rest : String) : Tilde ("~/" ++ rest) rest
  | backslash (rest : String) : Tilde ("~\\" ++ rest) rest

/-- Nothing is behind a tilde on its own. -/
theorem Tilde.rest_eq_empty {text rest : String} (h : Tilde text rest) (halone : text = "~") :
    rest = "" := by
  cases h with
  | alone => rfl
  | slash | backslash => simp [← String.toList_inj] at halone

/-- A tilde stands for the home directory of the user, which the path behind it is joined to. -/
theorem expand_tilde {text rest : String} (h : Tilde text rest) (subdirectory : String)
    (home : Option String) : expand (some text) subdirectory home =
      match home with
      | none => .error .unknownHome
      | some user => .ok (if text = "~" then user else join user rest) := by
  cases h with
  | alone => cases home <;> rfl
  | slash | backslash =>
    cases home with
    | none => simp [expand, String.toList_append]
    | some user => simp [expand, String.toList_append, ← String.toList_inj]

/-- An absolute path is taken as it is. -/
theorem expand_of_isAbsolute {path : String} (h : isAbsolute path = true) (subdirectory : String)
    (home : Option String) : expand (some path) subdirectory home = .ok path := by
  cases hchars : path.toList with
  | nil => simp [isAbsolute, isAbsoluteChars, hchars] at h
  | cons c cs =>
    obtain rfl : c = '/' := by simpa [isAbsolute, isAbsoluteChars, hchars] using h
    simp [expand, hchars]

/-- The path behind a tilde leads below the home directory of the user exactly if it is relative or
leads there by itself. -/
theorem isBelow_expand_iff (hcurrent : isAbsolute currentDirectory = true) {text rest : String}
    (h : Tilde text rest) (user : String) :
    IsBelow (absolute currentDirectory (if text = "~" then user else join user rest))
        (absolute currentDirectory user) ↔
      isAbsolute rest = false ∨ IsBelow rest (absolute currentDirectory user) := by
  by_cases halone : text = "~"
  · obtain rfl := h.rest_eq_empty halone
    rw [if_pos halone]
    exact iff_of_true (List.prefix_refl _) (.inl (by decide))
  · rw [if_neg halone]
    by_cases hrest : isAbsolute rest = true
    · rw [join_of_isAbsolute hrest, absolute_of_isAbsolute hrest]
      simp [hrest]
    · rw [Bool.not_eq_true] at hrest
      exact iff_of_true (isBelow_absolute_join hcurrent user hrest) (.inl hrest)

/-! ## The home directory -/

theorem resolve_eq_ok_iff {configured : Option String} {subdirectory : String}
    {home : Option String} {path : String} :
    resolve configured subdirectory home currentDirectory = .ok path ↔
      ∃ expanded, expand configured subdirectory home = .ok expanded ∧
        path = absolute currentDirectory expanded := by
  rw [resolve]
  cases expand configured subdirectory home with
  | error e => simp [Except.map]
  | ok expanded => simp [Except.map, eq_comm]

/-- The home directory is absolute, and it is what configuring it gives, whatever surrounds it.
Without a configured text it is below the home directory of the user; behind a tilde it is so exactly
if the path there is relative or leads there by itself, and an absolute path is taken as it is. -/
theorem resolve_below_iff {configured : Option String} {subdirectory : String}
    {home : Option String} {path : String} (hcurrent : isAbsolute currentDirectory = true)
    (hsubdirectory : isAbsolute subdirectory = false)
    (h : resolve configured subdirectory home currentDirectory = .ok path) :
    isAbsolute path = true ∧
    (∀ subdirectory' home' currentDirectory',
      resolve (some path) subdirectory' home' currentDirectory' = .ok path) ∧
    (configured = none →
      ∃ user, home = some user ∧ IsBelow path (absolute currentDirectory user)) ∧
    (∀ text rest, configured = some text → Tilde text rest → ∃ user, home = some user ∧
      (IsBelow path (absolute currentDirectory user) ↔
        isAbsolute rest = false ∨ IsBelow rest (absolute currentDirectory user)) ∧
      (isAbsolute rest = true → path = rest)) := by
  have habsolute : isAbsolute path = true := isAbsolute_resolve hcurrent h
  obtain ⟨expanded, hexpand, rfl⟩ := resolve_eq_ok_iff.1 h
  refine ⟨habsolute, ?_, ?_, ?_⟩
  · intro subdirectory' home' currentDirectory'
    rw [resolve_eq_ok_iff]
    exact ⟨_, expand_of_isAbsolute habsolute _ _, (absolute_of_isAbsolute habsolute _).symm⟩
  · rintro rfl
    cases home with
    | none => cases hexpand
    | some user =>
      cases hexpand
      exact ⟨user, rfl, isBelow_absolute_join hcurrent user hsubdirectory⟩
  · rintro text rest rfl htilde
    rw [expand_tilde htilde] at hexpand
    cases home with
    | none => cases hexpand
    | some user =>
      cases hexpand
      refine ⟨user, rfl, isBelow_expand_iff hcurrent htilde user, fun hrest => ?_⟩
      have hne : text ≠ "~" := by
        intro halone
        rw [htilde.rest_eq_empty halone] at hrest
        cases hrest
      rw [if_neg hne, join_of_isAbsolute hrest, absolute_of_isAbsolute hrest]

/-- A home directory of the user that is relative is seen from the current directory, and so is what
is below it; an absolute path behind the tilde leads there if it starts with the same directories. -/
theorem resolve_below_iff_sample :
    (isAbsolute "/srv" = true ∧ isAbsolute ".catalog" = false ∧
      resolve (some "~\\data/./x") ".catalog" (some "users//me") "/srv" =
        .ok "/srv/users//me/data/./x" ∧
      IsBelow "/srv/users//me/data/./x" "/srv/users/me") ∧
    (resolve (some "~//home/me/x") ".catalog" (some "/home/me/") "/srv" = .ok "/home/me/x" ∧
      IsBelow "/home/me/x" "/home/me/") := by
  have hcurrent : isAbsolute "/srv" = true := by decide
  have hsubdirectory : isAbsolute ".catalog" = false := by decide
  have hrelative : resolve (some "~\\data/./x") ".catalog" (some "users//me") "/srv" =
      .ok "/srv/users//me/data/./x" := by rfl
  have habsolute : resolve (some "~//home/me/x") ".catalog" (some "/home/me/") "/srv" =
      .ok "/home/me/x" := by rfl
  obtain ⟨-, -, -, hbelow⟩ := resolve_below_iff hcurrent hsubdirectory hrelative
  obtain ⟨user, huser, hiff, -⟩ := hbelow _ _ rfl (.backslash "data/./x")
  obtain ⟨-, -, -, hbelow'⟩ := resolve_below_iff hcurrent hsubdirectory habsolute
  obtain ⟨user', huser', hiff', -⟩ := hbelow' _ _ rfl (.slash "/home/me/x")
  cases huser
  cases huser'
  exact ⟨⟨hcurrent, hsubdirectory, hrelative, hiff.2 (.inl (by decide))⟩,
    habsolute, hiff'.2 (.inr (by decide))⟩

/-- Behind the tilde, a second slash leads away from the home directory of the user. -/
theorem exists_tilde_lost :
    ∃ text rest user path, Tilde text rest ∧ isAbsolute "/srv" = true ∧
      isAbsolute ".catalog" = false ∧ isAbsolute user = true ∧
      resolve (some text) ".catalog" (some user) "/srv" = .ok path ∧ ¬ IsBelow path user :=
  ⟨"~//etc", "/etc", "/home/me", "/etc", .slash "/etc", by decide, by decide, by decide, rfl,
    by decide⟩

end HomePath

end Catalog
