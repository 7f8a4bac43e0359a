import Catalog.Proofs.DateText
import Catalog.Proofs.LogThresholds
import Catalog.Proofs.UnescapedText

/-!
# Levels of targets

What the level texts of the sections say is what counts for a target. Of the sections that the
target starts with, the one of the longest name decides, and a blank text leaves the decision to the
default section. The order in which the sections are listed plays no part.

## Key results

- `LevelFilter.ofText_eq_iff`: what a level text asks for
- `LogTargets.filterFor_eq_of_perm`: thresholds in another order
- `LogSettings.effective_iff`: the threshold of a target in terms of the sections
- `LogSettings.enables_iff_effective`: what is let through, whatever the order of the sections
-/

namespace Catalog

/-! ## Words between blanks -/

namespace Text

/-- Small letters are blank exactly if the letters are: no letter is. -/
theorem isBlank_toLower (c : Char) : isBlank c.toLower = isBlank c := by
  rcases toLower_eq_or c with hsame | ⟨k, hk, rfl⟩
  · rw [hsame]
  · have hletters : ∀ k ∈ List.range 26, isBlank (Char.ofNat (65 + k)).toLower =
        isBlank (Char.ofNat (65 + k)) := by decide
    exact hletters k hk

/-- Trimming leaves what stands between blanks. -/
theorem trim_append {front word back : List Char} (hfront : ∀ c ∈ front, isBlank c = true)
    (hback : ∀ c ∈ back, isBlank c = true) (hfirst : ∀ c ∈ word.head?, isBlank c = false)
    (hlast : ∀ c ∈ word.getLast?, isBlank c = false) : trim (front ++ word ++ back) = word := by
  by_cases hne : word = []
  · -- nothing but blanks
    have hall : ∀ c ∈ front ++ word ++ back, isBlank c = true := by
      simp only [hne, List.append_nil, List.mem_append]
      exact fun c hc => hc.elim (hfront c) (hback c)
    have hstart : trimStart (front ++ word ++ back) = [] := dropWhile_eq_nil hall
    rw [trim, hstart, hne]
    rfl
  · obtain ⟨c, cs, hcs⟩ := List.exists_cons_of_ne_nil hne
    have hstart : trimStart (front ++ word ++ back) = word ++ back := by
      rw [List.append_assoc]
      apply dropWhile_append_stop hfront
      simpa [hcs] using hfirst
    have hend : (word ++ back).reverse.dropWhile isBlank = word.reverse := by
      rw [List.reverse_append]
      apply dropWhile_append_stop
      · simpa using hback
      · simpa using hlast
    rw [trim, hstart, trimEnd, hend, List.reverse_reverse]

/-- A text is what trimming leaves, between blanks. -/
theorem exists_trim (cs : List Char) : ∃ front back, (∀ c ∈ front, isBlank c = true) ∧
    (∀ c ∈ back, isBlank c = true) ∧ cs = front ++ trim cs ++ back := by
  obtain ⟨front, hfront, hcs⟩ := Time.exists_blanks cs
  -- the blanks at the end are those in front of the reversed text
  obtain ⟨back, hback, hrest⟩ := Time.exists_blanks (trimStart cs).reverse
  have htrim : trimStart cs = trim cs ++ back.reverse := by
    rw [← List.reverse_reverse (trimStart cs), hrest, List.reverse_append]
    simp [trim, trimEnd, trimStart]
  refine ⟨front, back.reverse, hfront, by simpa using hback, ?_⟩
  rw [List.append_assoc, ← htrim]
  exact hcs

/-- A text is a word, in any case of its letters and with blanks around it. -/
def Spells (text word : List Char) : Prop :=
  ∃ front written back, (∀ c ∈ front, isBlank c = true) ∧ (∀ c ∈ back, isBlank c = true) ∧
    sameIgnoringCase written word = true ∧ text = front ++ written ++ back

/-- A text spells a word exactly if trimming and lowering it leaves the word. -/
theorem spells_iff {text word : List Char} (hlower : lowerAscii word = word)
    (hblank : ∀ c ∈ word, isBlank c = false) : Spells text word ↔ lowerAscii (trim text) = word := by
  constructor
  · intro h
    obtain ⟨front, written, back, hfront, hback, hsame, rfl⟩ := h
    have hword : lowerAscii written = word := by simpa [sameIgnoringCase, hlower] using hsame
    have hwritten : ∀ c ∈ written, isBlank c = false := by
      intro c hc
      rw [← isBlank_toLower]
      exact hblank _ (hword ▸ List.mem_map_of_mem hc)
    rw [trim_append hfront hback (fun c hc => hwritten c (List.mem_of_mem_head? hc))
      fun c hc => hwritten c (List.mem_of_getLast? hc)]
    exact hword
  · intro h
    obtain ⟨front, back, hfront, hback, htext⟩ := exists_trim text
    exact ⟨front, trim text, back, hfront, hback, by simp [sameIgnoringCase, hlower, h], htext⟩

end Text

/-! ## Texts of levels -/

namespace LevelFilter

/-- The names of thresholds. -/
def names : List (String × LevelFilter) :=
  [("trace", .upTo .trace), ("debug", .upTo .debug), ("info", .upTo .info), ("warn", .upTo .warn),
    ("error", .upTo .error), ("off", .off), ("none", .off)]

/-- What a level text asks for: the threshold whose name it spells, and `info` if it spells none. -/
inductive Asks (text : String) : LevelFilter → Prop where
  | name {name : String} {filter : LevelFilter} (mem : (name, filter) ∈ names)
      (spells : Text.Spells text.toList name.toList) : Asks text filter
  | other (unknown : ∀ e ∈ names, ¬ Text.Spells text.toList e.1.toList) : Asks text (.upTo .info)

theorem ofText_eq_lookup (text : String) : ofText text =
    (names.lookup (String.ofList (Text.lowerAscii (Text.trim text.toList)))).getD
      (.upTo .info) := by
  unfold ofText
  generalize String.ofList (Text.lowerAscii (Text.trim text.toList)) = word
  split
  case h_8 htrace hdebug hinfo hwarn herror hoff hnone =>
    simp [names, List.lookup_cons, beq_false_of_ne htrace, beq_false_of_ne hdebug,
      beq_false_of_ne hinfo, beq_false_of_ne hwarn, beq_false_of_ne herror, beq_false_of_ne hoff,
      beq_false_of_ne hnone]
  all_goals rfl

/-- A text spells a name exactly if the name is left when the text is trimmed and lowered. -/
theorem spells_name_iff {text : String} {e : String × LevelFilter} (he : e ∈ names) :
    Text.Spells text.toList e.1.toList ↔
      String.ofList (Text.lowerAscii (Text.trim text.toList)) = e.1 := by
  have hnames : names.all (fun e => Text.lowerAscii e.1.toList == e.1.toList &&
      e.1.toList.all fun c => !Text.isBlank c) = true := by decide
  obtain ⟨hlower, hblank⟩ : Text.lowerAscii e.1.toList = e.1.toList ∧
      ∀ c ∈ e.1.toList, Text.isBlank c = false := by
    simpa using List.all_eq_true.1 hnames e he
  rw [Text.spells_iff hlower hblank, ← String.toList_inj, String.toList_ofList]

/-- A level text is read as what it asks for. -/
theorem ofText_eq_iff {text : String} {filter : LevelFilter} :
    ofText text = filter ↔ Asks text filter := by
  have hnodup : (names.map Prod.fst).Nodup := by decide
  rw [ofText_eq_lookup]
  constructor
  · intro h
    cases hlookup : names.lookup (String.ofList (Text.lowerAscii (Text.trim text.toList))) with
    | some found =>
      have hmem := (SortedMap.lookup_eq_some_iff_mem hnodup _ _).1 hlookup
      obtain rfl : found = filter := by simpa [hlookup] using h
      exact .name hmem ((spells_name_iff hmem).2 rfl)
    | none =>
      obtain rfl : filter = .upTo .info := by simpa [hlookup] using h.symm
      refine .other fun e he hspells => ?_
      have hne := List.lookup_eq_none_iff.1 hlookup e he
      simp [(spells_name_iff he).1 hspells] at hne
  · intro h
    cases h with
    | name hmem hspells =>
      rw [(spells_name_iff hmem).1 hspells, (SortedMap.lookup_eq_some_iff_mem hnodup _ _).2 hmem]
      rfl
    | other hunknown =>
      have hnone : names.lookup (String.ofList (Text.lowerAscii (Text.trim text.toList))) = none := by
        rw [List.lookup_eq_none_iff]
        intro e he
        simpa using fun hword => hunknown e he ((spells_name_iff he).2 hword)
      rw [hnone]
      rfl

end LevelFilter

/-! ## Orders of sections -/

namespace LogTargets

theorem IsLongest.of_perm {target : String} {named named' : List (String × LevelFilter)}
    {found : String × LevelFilter} (h : IsLongest target named found) (hperm : named.Perm named') :
    IsLongest target named' found where
  mem := hperm.mem_iff.1 h.mem
  covers := h.covers
  longest other hother := h.longest other (hperm.mem_iff.2 hother)

/-- The order of thresholds with distinct names plays no part. -/
theorem filterFor_eq_of_perm {t u : LogTargets} (hdefault : t.default = u.default)
    (hperm : t.named.Perm u.named) (hnodup : (t.named.map Prod.fst).Nodup) (target : String) :
    t.filterFor target = u.filterFor target := by
  rcases u.filterFor_cases target with ⟨found, hfound, hu⟩ | ⟨hnone, hu⟩
  · rw [hu, (hfound.of_perm hperm.symm).filterFor_eq hnodup]
  · rcases t.filterFor_cases target with ⟨found, hfound, -⟩ | ⟨-, ht⟩
    · have huncovered := hnone found (hperm.mem_iff.1 hfound.mem)
      simp [hfound.covers] at huncovered
    · rw [ht, hu, hdefault]

/-- The order of sections with distinct names plays no part. -/
theorem filterFor_ofSections_of_perm {sections sections' : List (String × LogSection)}
    (hperm : sections.Perm sections') (hnodup : (sections.map Prod.fst).Nodup)
    (pick : LogSection → String) (target : String) :
    (ofSections pick sections).filterFor target = (ofSections pick sections').filterFor target := by
  have hlookup := SortedMap.lookup_eq_of_perm hperm hnodup LogSection.defaultName
  apply filterFor_eq_of_perm _ _ (nodup_named_ofSections hnodup pick)
  · simp only [ofSections, hlookup]
  · simp only [ofSections, hlookup]
    exact (hperm.filter _).map _

end LogTargets

/-! ## Thresholds in force -/

namespace LogSettings

variable {settings : LogSettings} {pick : LogSection → String} {target : String}
  {filter : LevelFilter}

/-- What the default section asks for, or `info` without one. -/
inductive Defaults (settings : LogSettings) (pick : LogSection → String) : LevelFilter → Prop where
  | configured {s : LogSection} {filter : LevelFilter}
      (found : settings.get? LogSection.defaultName = some s)
      (asks : LevelFilter.Asks (pick s) filter) : Defaults settings pick filter
  | missing (missing : settings.get? LogSection.defaultName = none) :
      Defaults settings pick (.upTo .info)

/-- The threshold in force for a target. It is what the section asks for that decides about the
target; where this section has a blank text, and where no section decides, it is what the default
section asks for. -/
inductive Effective (settings : LogSettings) (pick : LogSection → String) (target : String) :
    LevelFilter → Prop where
  | own {name : String} {s : LogSection} {filter : LevelFilter}
      (decides : settings.Decides target name s) (text : Text.allBlank (pick s) = false)
      (asks : LevelFilter.Asks (pick s) filter) : Effective settings pick target filter
  | inherited {name : String} {s : LogSection} {filter : LevelFilter}
      (decides : settings.Decides target name s) (blank : Text.allBlank (pick s) = true)
      (defaults : Defaults settings pick filter) : Effective settings pick target filter
  | uncovered {filter : LevelFilter}
      (uncovered : ∀ name s, settings.get? name = some s → name ≠ LogSection.defaultName →
        ¬ name.toList <+: target.toList)
      (defaults : Defaults settings pick filter) : Effective settings pick target filter

theorem defaults_iff : settings.Defaults pick filter ↔ settings.defaultFilter pick = filter := by
  unfold defaultFilter
  cases hdefault : settings.get? LogSection.defaultName with
  | some s =>
    rw [Option.map_some, Option.getD_some, LevelFilter.ofText_eq_iff]
    constructor
    · intro h
      cases h with
      | configured hfound hasks =>
        rw [hdefault] at hfound
        exact Option.some.inj hfound ▸ hasks
      | missing hmissing => simp [hdefault] at hmissing
    · exact .configured hdefault
  | none =>
    constructor
    · intro h
      cases h with
      | configured hfound _ => simp [hdefault] at hfound
      | missing _ => rfl
    · rintro rfl
      exact .missing hdefault

/-- The threshold of a target is the one that is in force for it. -/
theorem effective_iff : settings.Effective pick target filter ↔
    (LogTargets.ofSections pick settings.toList).filterFor target = filter := by
  constructor
  · intro h
    cases h with
    | own hdecides htext hasks =>
      rw [filterFor_of_decides hdecides, sectionFilter, if_neg (by simp [htext])]
      exact LevelFilter.ofText_eq_iff.2 hasks
    | inherited hdecides hblank hdefaults =>
      rw [filterFor_of_decides hdecides, sectionFilter, if_pos hblank]
      exact defaults_iff.1 hdefaults
    | uncovered huncovered hdefaults =>
      rw [filterFor_of_uncovered huncovered]
      exact defaults_iff.1 hdefaults
  · intro h
    rcases settings.exists_decides_or target with ⟨name, s, hdecides⟩ | huncovered
    · rw [filterFor_of_decides hdecides, sectionFilter] at h
      by_cases hblank : Text.allBlank (pick s) = true
      · rw [if_pos hblank] at h
        exact .inherited hdecides hblank (defaults_iff.2 h)
      · rw [if_neg hblank] at h
        exact .own hdecides (by simpa using hblank) (LevelFilter.ofText_eq_iff.1 h)
    · rw [filterFor_of_uncovered huncovered] at h
      exact .uncovered huncovered (defaults_iff.2 h)

/-- In whatever order the sections are listed, one threshold is in force for a target, and an event
is let through exactly if its level is within it. -/
theorem enables_iff_effective (settings : LogSettings) {sections : List (String × LogSection)}
    (h : sections.Perm settings.toList) (pick : LogSection → String) (target : String)
    (level : LogLevel) :
    ∃ filter, settings.Effective pick target filter ∧
      (∀ other, settings.Effective pick target other → other = filter) ∧
      ((LogTargets.ofSections pick sections).enables target level = true ↔
        level.rank ≤ filter.rank) := by
  have hnodup : (sections.map Prod.fst).Nodup :=
    (h.map Prod.fst).nodup_iff.2 settings.nodup_keys
  refine ⟨_, effective_iff.2 rfl, fun other hother => (effective_iff.1 hother).symm, ?_⟩
  rw [LogTargets.enables, LogTargets.filterFor_ofSections_of_perm h hnodup]
  simp [LevelFilter.allows]

/-- Sections of which one is a part of another and one is for every target. -/
def nested : LogSettings :=
  .ofList [("default", { consoleLevel := "warn" }), ("", { consoleLevel := " Error\t" }),
    ("movies", { consoleLevel := " " }), ("movies::domain", { consoleLevel := "loud" })]

/-- The same sections in another order. -/
def shuffled : List (String × LogSection) :=
  [("movies::domain", { consoleLevel := "loud" }), ("default", { consoleLevel := "warn" }),
    ("movies", { consoleLevel := " " }), ("", { consoleLevel := " Error\t" })]

/-- The section of the longest name decides with a word that names no level, the one above it leaves
the decision to the default section, and all other targets go by the section without a name. -/
theorem enables_iff_effective_sample :
    shuffled.Perm nested.toList ∧
    nested.Effective LogSection.consoleLevel "movies::domain::service" (.upTo .info) ∧
    nested.Effective LogSection.consoleLevel "movies::api" (.upTo .warn) ∧
    nested.Effective LogSection.consoleLevel "default" (.upTo .error) ∧
    (LogTargets.ofSections LogSection.consoleLevel shuffled).enables
      "movies::domain::service" .info = true ∧
    (LogTargets.ofSections LogSection.consoleLevel shuffled).enables "movies::api" .info = false ∧
    (LogTargets.ofSections LogSection.consoleLevel shuffled).enables "default" .warn = false := by
  have hperm : shuffled.Perm nested.toList := by decide
  -- the threshold in force decides, as there is no other
  have henables : ∀ {target : String} {filter : LevelFilter} (level : LogLevel),
      nested.Effective LogSection.consoleLevel target filter →
      ((LogTargets.ofSections LogSection.consoleLevel shuffled).enables target level = true ↔
        level.rank ≤ filter.rank) := by
    intro target filter level heffective
    obtain ⟨found, -, hunique, hiff⟩ :=
      enables_iff_effective nested hperm LogSection.consoleLevel target level
    rwa [hunique filter heffective]
  have hdomain : nested.Effective LogSection.consoleLevel "movies::domain::service"
      (.upTo .info) := effective_iff.2 (by decide)
  have hmovies : nested.Effective LogSection.consoleLevel "movies::api" (.upTo .warn) :=
    effective_iff.2 (by decide)
  have hall : nested.Effective LogSection.consoleLevel "default" (.upTo .error) :=
    effective_iff.2 (by decide)
  refine ⟨hperm, hdomain, hmovies, hall, (henables .info hdomain).2 (by decide), ?_, ?_⟩
  · exact Bool.eq_false_iff.2 (mt (henables .info hmovies).1 (by decide))
  · exact Bool.eq_false_iff.2 (mt (henables .warn hall).1 (by decide))

end LogSettings

end Catalog
