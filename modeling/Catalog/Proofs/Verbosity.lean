import Catalog.Config.Basic
import Catalog.Proofs.LogThresholds

/-!
# Verbosity

A number of `-v` sets the console level of the default section: one asks for debug, more ask for
trace. So more of them show more, except that the first one takes a default section that is at
trace back to debug. What they ask for reaches every target that no named section is for, provided
that there is a default section.

## Key results

- `Config.filterFor_console`: the threshold of a target under a number of `-v`
- `Config.enables_mono_iff`: exactly when more `-v` show no less
- `Config.verbose_shows_more`: the same together with what any number of `-v` shows
- `Config.exists_verbose_without_effect`: `-v` that shows less, and `-v` that shows nothing more
-/

namespace Catalog

namespace LogSettings

variable {settings : LogSettings} {level target name : String} {s : LogSection}

theorem get?_withConsoleLevel_of_ne (h : name ≠ LogSection.defaultName) :
    (Config.withConsoleLevel settings level).get? name = settings.get? name := by
  unfold Config.withConsoleLevel
  split
  · simp [SortedMap.get?_insert, h]
  · rfl

theorem get?_withConsoleLevel_default :
    (Config.withConsoleLevel settings level).get? LogSection.defaultName =
      (settings.get? LogSection.defaultName).map fun s => { s with consoleLevel := level } := by
  unfold Config.withConsoleLevel
  split
  · next h => simp [SortedMap.get?_insert, h]
  · next h => simp [h]

/-- The sections that decide about targets are the named ones, which `-v` leaves alone. -/
theorem decides_withConsoleLevel_iff :
    (Config.withConsoleLevel settings level).Decides target name s ↔
      settings.Decides target name s := by
  have hget : ∀ {name' : String}, name' ≠ LogSection.defaultName →
      (Config.withConsoleLevel settings level).get? name' = settings.get? name' :=
    get?_withConsoleLevel_of_ne
  constructor
  · intro h
    refine ⟨hget h.named ▸ h.found, h.named, h.covers, fun name' s' hfound hne => ?_⟩
    exact h.longest name' s' ((hget hne).trans hfound) hne
  · intro h
    refine ⟨(hget h.named).trans h.found, h.named, h.covers, fun name' s' hfound hne => ?_⟩
    exact h.longest name' s' (hget hne ▸ hfound) hne

end LogSettings

namespace Config

/-- The log settings in force: those that are configured, or the standard ones. -/
def logSettings (c : Config) : LogSettings := c.logging.getD .standard

/-- What the console lets through when the command line has this port and this number of `-v`. -/
def console (c : Config) (port : Option UInt16) (verbose : Nat) : LogTargets :=
  .console (c.override port verbose).logSettings

/-- The threshold of the default section on the console under a number of `-v`. -/
def defaultFilter (c : Config) (verbose : Nat) : LevelFilter :=
  match c.logSettings.get? LogSection.defaultName with
  | none => .upTo .info
  | some s => LevelFilter.ofText ((verboseLevel? verbose).getD s.consoleLevel)

/-- The default section decides about a target: no named section with a level of its own does. -/
def GoesByDefault (c : Config) (target : String) : Prop :=
  ∀ name s, c.logSettings.Decides target name s → Text.allBlank s.consoleLevel = true

variable {c : Config} {port : Option UInt16} {target name : String} {level : LogLevel}

theorem logSettings_override (verbose : Nat) : (c.override port verbose).logSettings =
    match verboseLevel? verbose with
    | some level => withConsoleLevel c.logSettings level
    | none => c.logSettings := rfl

theorem decides_override_iff {s : LogSection} (port : Option UInt16) (verbose : Nat) :
    (c.override port verbose).logSettings.Decides target name s ↔
      c.logSettings.Decides target name s := by
  rw [logSettings_override]
  split
  · exact LogSettings.decides_withConsoleLevel_iff
  · rfl

theorem defaultFilter_override (c : Config) (port : Option UInt16) (verbose : Nat) :
    (c.override port verbose).logSettings.defaultFilter LogSection.consoleLevel =
      c.defaultFilter verbose := by
  rw [logSettings_override, defaultFilter, LogSettings.defaultFilter]
  cases hlevel : verboseLevel? verbose with
  | none => cases c.logSettings.get? LogSection.defaultName <;> rfl
  | some level =>
    simp only [LogSettings.get?_withConsoleLevel_default]
    cases c.logSettings.get? LogSection.defaultName <;> rfl

/-- A target that a section decides about has the level of the section, or the default one. -/
theorem filterFor_console_of_decides {s : LogSection} (h : c.logSettings.Decides target name s)
    (verbose : Nat) : (c.console port verbose).filterFor target =
      if Text.allBlank s.consoleLevel then c.defaultFilter verbose
      else LevelFilter.ofText s.consoleLevel := by
  have hdecides := (decides_override_iff port verbose).2 h
  rw [← c.defaultFilter_override port verbose]
  exact LogSettings.filterFor_of_decides hdecides

/-- A target that no named section is for goes by the default section. -/
theorem filterFor_console_of_uncovered (h : ∀ name s, c.logSettings.get? name = some s →
      name ≠ LogSection.defaultName → ¬ name.toList <+: target.toList) (verbose : Nat) :
    (c.console port verbose).filterFor target = c.defaultFilter verbose := by
  rw [← c.defaultFilter_override port verbose]
  apply LogSettings.filterFor_of_uncovered
  intro name s hget hne
  -- the command line gives no named section
  rw [logSettings_override] at hget
  split at hget
  · rw [LogSettings.get?_withConsoleLevel_of_ne hne] at hget
    exact h name s hget hne
  · exact h name s hget hne

/-- A named section with a level of its own keeps its threshold; every other target has that of the
default section. -/
theorem filterFor_console (c : Config) (port : Option UInt16) (target : String) :
    (c.GoesByDefault target ∧
      ∀ verbose, (c.console port verbose).filterFor target = c.defaultFilter verbose) ∨
    (¬ c.GoesByDefault target ∧ ∃ filter,
      ∀ verbose, (c.console port verbose).filterFor target = filter) := by
  by_cases hdefault : c.GoesByDefault target
  · refine .inl ⟨hdefault, fun verbose => ?_⟩
    rcases c.logSettings.exists_decides_or target with ⟨name, s, h⟩ | hnone
    · rw [filterFor_console_of_decides h, hdefault name s h, if_pos rfl]
    · exact filterFor_console_of_uncovered hnone verbose
  · refine .inr ⟨hdefault, ?_⟩
    simp only [GoesByDefault, not_forall] at hdefault
    obtain ⟨name, s, h, hblank⟩ := hdefault
    refine ⟨LevelFilter.ofText s.consoleLevel, fun verbose => ?_⟩
    rw [filterFor_console_of_decides h, if_neg hblank]

/-! ## More and less -/

/-- The first `-v` hides the details of a target: the default section decides about it and is at
trace. -/
structure HidesDetails (c : Config) (verbose verbose' : Nat) (target : String) (level : LogLevel) :
    Prop where
  without : verbose = 0
  single : verbose' = 1
  detail : level = .trace
  default : ∃ s, c.logSettings.get? LogSection.defaultName = some s ∧
    LevelFilter.ofText s.consoleLevel = .upTo .trace
  goesByDefault : c.GoesByDefault target

/-- A threshold lets no less through than another one that debug takes the place of, unless it was
trace and the event is a detail. -/
private theorem allows_debug_iff (f : LevelFilter) (level : LogLevel) :
    (f.allows level = true → (LevelFilter.upTo .debug).allows level = true) ↔
      ¬ (level = .trace ∧ f = .upTo .trace) := by
  rcases f with _ | f
  · cases level <;> decide
  · cases f <;> cases level <;> decide

private theorem allows_trace (level : LogLevel) :
    (LevelFilter.upTo .trace).allows level = true := by
  cases level <;> rfl

/-- The default section lets more through under more `-v`, unless the first one takes it back. -/
private theorem allows_defaultFilter_iff {verbose verbose' : Nat} (h : verbose ≤ verbose') :
    ((c.defaultFilter verbose).allows level = true →
      (c.defaultFilter verbose').allows level = true) ↔
    ¬ (verbose = 0 ∧ verbose' = 1 ∧ level = .trace ∧
      ∃ s, c.logSettings.get? LogSection.defaultName = some s ∧
        LevelFilter.ofText s.consoleLevel = .upTo .trace) := by
  unfold defaultFilter
  cases hdefault : c.logSettings.get? LogSection.defaultName with
  | none => simp
  | some s =>
    -- no `-v`, one, or more of them
    have hdebug : LevelFilter.ofText "debug" = .upTo .debug := by decide
    have htrace : LevelFilter.ofText "trace" = .upTo .trace := by decide
    rcases verbose' with _ | _ | more'
    · obtain rfl : verbose = 0 := by omega
      simp
    · rcases verbose with _ | _ | more
      · simpa [verboseLevel?, hdebug] using allows_debug_iff (.ofText s.consoleLevel) level
      · simp
      · omega
    · simp [verboseLevel?, htrace, allows_trace]

/-- More `-v` show no less, exactly unless the first one hides the details of the target. -/
theorem enables_mono_iff (c : Config) (port : Option UInt16) (target : String) (level : LogLevel)
    {verbose verbose' : Nat} (h : verbose ≤ verbose') :
    ((c.console port verbose).enables target level = true →
      (c.console port verbose').enables target level = true) ↔
    ¬ c.HidesDetails verbose verbose' target level := by
  unfold LogTargets.enables
  rcases c.filterFor_console port target with ⟨hdefault, hfilter⟩ | ⟨hown, filter, hfilter⟩
  · rw [hfilter, hfilter, allows_defaultFilter_iff h, not_iff_not]
    constructor
    · intro hhidden
      obtain ⟨hnone, hone, hlevel, hsection⟩ := hhidden
      exact ⟨hnone, hone, hlevel, hsection, hdefault⟩
    · intro hhides
      exact ⟨hhides.without, hhides.single, hhides.detail, hhides.default⟩
  · rw [hfilter, hfilter]
    simpa using fun hhides : c.HidesDetails verbose verbose' target level =>
      hown hhides.goesByDefault

/-- With a default section, any number of `-v` shows at least what debug shows. -/
theorem allows_debug_of_verbose {s : LogSection} {verbose : Nat}
    (hdefault : c.logSettings.get? LogSection.defaultName = some s) (h : 1 ≤ verbose) :
    (c.defaultFilter verbose).allows .debug = true := by
  simp only [defaultFilter, hdefault]
  rcases verbose with _ | _ | more
  · omega
  · show (LevelFilter.ofText "debug").allows .debug = true
    decide
  · show (LevelFilter.ofText "trace").allows .debug = true
    decide

/-- More `-v` show no less, except that the first one takes a default section at trace back to
debug. Without configured logging, and with a default section, any number of them shows the debug
events of the targets that no named section is for. -/
theorem verbose_shows_more (c : Config) (port : Option UInt16) (target : String) :
    (∀ (level : LogLevel) (verbose verbose' : Nat), verbose ≤ verbose' →
      (((c.console port verbose).enables target level = true →
        (c.console port verbose').enables target level = true) ↔
      ¬ c.HidesDetails verbose verbose' target level)) ∧
    ((c.logging = none ∨ ∃ settings s, c.logging = some settings ∧
        settings.get? LogSection.defaultName = some s) →
      (∀ name s, c.logSettings.get? name = some s → name ≠ LogSection.defaultName →
        ¬ name.toList <+: target.toList) →
      ∀ verbose, 1 ≤ verbose → (c.console port verbose).enables target .debug = true) := by
  refine ⟨fun level _ _ h => c.enables_mono_iff port target level h, ?_⟩
  intro hlogging huncovered verbose hverbose
  obtain ⟨s, hdefault⟩ : ∃ s, c.logSettings.get? LogSection.defaultName = some s := by
    rcases hlogging with hnone | ⟨settings, s, hsome, hget⟩
    · exact ⟨LogSection.standard, by simp only [logSettings, hnone]; rfl⟩
    · exact ⟨s, by simpa [logSettings, hsome] using hget⟩
  unfold LogTargets.enables
  rw [filterFor_console_of_uncovered huncovered]
  exact allows_debug_of_verbose hdefault hverbose

/-- A configuration with sections for movies and for queries, the latter without a level. -/
def sectioned : Config where
  logging := some (.ofList [("default", .standard), ("movies", { consoleLevel := "OFF" }),
    ("query", { consoleLevel := " " })])

/-- One `-v` shows the debug events of the server, and two show no less. -/
theorem verbose_shows_more_sample :
    (1 ≤ 2 ∧ ¬ sectioned.HidesDetails 1 2 "query::sort" .debug ∧
      (sectioned.console none 1).enables "query::sort" .debug = true ∧
      (sectioned.console none 2).enables "query::sort" .debug = true) ∧
    (∃ settings s, sectioned.logging = some settings ∧
      settings.get? LogSection.defaultName = some s) ∧
    (∀ name s, sectioned.logSettings.get? name = some s → name ≠ LogSection.defaultName →
      ¬ name.toList <+: "server".toList) ∧
    (sectioned.console none 0).enables "server" .debug = false ∧
    (sectioned.console none 1).enables "server" .debug = true := by
  have hdefault : ∃ settings s, sectioned.logging = some settings ∧
      settings.get? LogSection.defaultName = some s := ⟨_, .standard, rfl, by decide⟩
  have huncovered : ∀ name s, sectioned.logSettings.get? name = some s →
      name ≠ LogSection.defaultName → ¬ name.toList <+: "server".toList := by
    intro name s hget hne
    -- the other names are those of movies and of queries
    have hmem := (SortedMap.mem_toList_iff _ _ _).2 hget
    have hnames : name ∈ ["default", "movies", "query"] := List.mem_map_of_mem (f := Prod.fst) hmem
    simp only [List.mem_cons, List.not_mem_nil, or_false] at hnames
    rcases hnames with rfl | rfl | rfl
    · exact absurd rfl hne
    · decide
    · decide
  obtain ⟨hmono, -⟩ := sectioned.verbose_shows_more none "query::sort"
  obtain ⟨-, hshown⟩ := sectioned.verbose_shows_more none "server"
  have hhides : ¬ sectioned.HidesDetails 1 2 "query::sort" .debug := fun h => by
    simpa using h.without
  have hone : (sectioned.console none 1).enables "query::sort" .debug = true := by decide
  have htwo := (hmono .debug 1 2 (by decide)).2 hhides hone
  refine ⟨⟨by decide, hhides, hone, htwo⟩, hdefault, huncovered, by decide, ?_⟩
  exact hshown (.inr hdefault) huncovered 1 (by decide)

/-- A configuration whose default section shows every detail. -/
def detailed : Config where
  logging := some (.ofList [("default", { consoleLevel := "trace" })])

/-- A configuration of logging without any section. -/
def sectionless : Config where
  logging := some .empty

/-- One `-v` hides the details that the default section shows, and without a default section it does
not show what debug would. -/
theorem exists_verbose_without_effect :
    (0 ≤ 1 ∧ (detailed.console none 0).enables "server" .trace = true ∧
      (detailed.console none 1).enables "server" .trace = false) ∧
    (1 ≤ 1 ∧ (∀ name s, sectionless.logSettings.get? name = some s → False) ∧
      (sectionless.console none 1).enables "server" .debug = false) := by
  refine ⟨⟨by decide, by decide, by decide⟩, by decide, fun name s hget => ?_, by decide⟩
  cases hget

end Config

end Catalog
