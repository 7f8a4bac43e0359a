import Catalog.Logging.Targets
import Catalog.Proofs.Pieces
import Catalog.Proofs.SortedEntries
import Mathlib.Data.List.Infix
import Mathlib.Data.List.Nodup

/-!
# Thresholds of targets

Of the named sections that a target starts with, the one of the longest name decides about it. A
target that starts with no name goes by the default section.

## Key results

- `LogTargets.filterFor_cases`: the threshold of a target is that of the longest name
- `LogTargets.IsLongest.filterFor_eq`: there is one such threshold if no name is repeated
- `LogSettings.filterFor_of_decides`, `LogSettings.filterFor_of_uncovered`: the same for the
  sections of log settings
-/

namespace Catalog

/-- A name takes up the bytes of its start and those of the rest. -/
theorem utf8ByteSize_of_append {name name' : String} {rest : List Char}
    (h : name.toList ++ rest = name'.toList) :
    name'.utf8ByteSize = name.utf8ByteSize + (String.ofList rest).utf8ByteSize := by
  rw [← String.utf8ByteSize_append, ← String.ofList_toList (s := name'), ← h,
    String.ofList_append, String.ofList_toList]

/-- Two names that a text starts with, neither of them longer than the other, are one name. -/
theorem eq_of_prefix_of_le {name name' target : String} (h : name.toList <+: target.toList)
    (h' : name'.toList <+: target.toList) (hle : name'.utf8ByteSize ≤ name.utf8ByteSize) :
    name'.toList <+: name.toList := by
  -- otherwise the first name is a proper start of the other one, which has more bytes then
  apply (List.prefix_or_prefix_of_prefix h' h).elim id
  intro hpre
  obtain ⟨rest, hrest⟩ := hpre
  have hsize := utf8ByteSize_of_append hrest
  have hempty : (String.ofList rest).utf8ByteSize = 0 := by omega
  rw [String.utf8ByteSize_eq_zero_iff] at hempty
  have hnil : rest = [] := by simpa using hempty
  simp [← hrest, hnil]

namespace LogTargets

/-! ## Named thresholds -/

theorem covers_iff {name target : String} :
    covers name target = true ↔ name.toList <+: target.toList :=
  Text.isSome_dropLead?_iff

/-- What is found of some named thresholds: one that covers the target, and none that does is
longer. -/
structure IsLongest (target : String) (named : List (String × LevelFilter))
    (found : String × LevelFilter) : Prop where
  mem : found ∈ named
  covers : covers found.1 target = true
  longest : ∀ other ∈ named, LogTargets.covers other.1 target = true →
    other.1.utf8ByteSize ≤ found.1.utf8ByteSize

/-- What a search through some named thresholds has come to. -/
def IsBest (target : String) (seen : List (String × LevelFilter)) :
    Option (String × LevelFilter) → Prop
  | some found => IsLongest target seen found
  | none => ∀ other ∈ seen, covers other.1 target = false

/-- One more threshold is longer than what was found, or it changes nothing. -/
theorem IsBest.moreSpecific {target : String} {seen : List (String × LevelFilter)}
    {best : Option (String × LevelFilter)} (h : IsBest target seen best)
    (next : String × LevelFilter) :
    IsBest target (seen ++ [next]) (LogTargets.moreSpecific target best next) := by
  by_cases hnext : covers next.1 target = true
  · cases best with
    | none =>
      -- the first threshold that covers the target
      simp only [LogTargets.moreSpecific, hnext, if_true]
      refine ⟨by simp, hnext, fun other hother hcovers => ?_⟩
      rcases List.mem_append.1 hother with hold | hlast
      · simp [h other hold] at hcovers
      · simp [List.mem_singleton.1 hlast]
    | some old =>
      obtain ⟨hmem, hcovers, hlongest⟩ := h
      by_cases hlt : old.1.utf8ByteSize < next.1.utf8ByteSize
      · simp only [LogTargets.moreSpecific, hnext, hlt, if_true]
        refine ⟨by simp, hnext, fun other hother hcov => ?_⟩
        rcases List.mem_append.1 hother with hold | hlast
        · have := hlongest other hold hcov
          omega
        · simp [List.mem_singleton.1 hlast]
      · simp only [LogTargets.moreSpecific, hnext, hlt, if_true, if_false]
        refine ⟨by simp [hmem], hcovers, fun other hother hcov => ?_⟩
        rcases List.mem_append.1 hother with hold | hlast
        · exact hlongest other hold hcov
        · rw [List.mem_singleton.1 hlast]
          omega
  · simp only [LogTargets.moreSpecific, hnext, if_false, Bool.false_eq_true]
    cases best with
    | none =>
      intro other hother
      rcases List.mem_append.1 hother with hold | hlast
      · exact h other hold
      · simpa [List.mem_singleton.1 hlast] using hnext
    | some old =>
      obtain ⟨hmem, hcovers, hlongest⟩ := h
      refine ⟨by simp [hmem], hcovers, fun other hother hcov => ?_⟩
      rcases List.mem_append.1 hother with hold | hlast
      · exact hlongest other hold hcov
      · rw [List.mem_singleton.1 hlast] at hcov
        exact absurd hcov hnext

/-- A search goes on to the longest of all names. -/
theorem IsBest.foldl {target : String} {seen : List (String × LevelFilter)}
    {best : Option (String × LevelFilter)} (h : IsBest target seen best)
    (rest : List (String × LevelFilter)) :
    IsBest target (seen ++ rest) (rest.foldl (LogTargets.moreSpecific target) best) := by
  induction rest generalizing seen best with
  | nil => simpa using h
  | cons next rest ih => simpa using ih (h.moreSpecific next)

/-- The threshold of a target is that of the longest name which it starts with, or the default. -/
theorem filterFor_cases (t : LogTargets) (target : String) :
    (∃ found, IsLongest target t.named found ∧ t.filterFor target = found.2) ∨
    ((∀ other ∈ t.named, covers other.1 target = false) ∧ t.filterFor target = t.default) := by
  have hempty : IsBest target [] none := by simp [IsBest]
  have hbest : IsBest target t.named (t.named.foldl (moreSpecific target) none) :=
    hempty.foldl t.named
  unfold filterFor
  cases hfold : t.named.foldl (moreSpecific target) none with
  | some found =>
    rw [hfold] at hbest
    exact .inl ⟨found, hbest, rfl⟩
  | none =>
    rw [hfold] at hbest
    exact .inr ⟨hbest, rfl⟩

/-- Of two longest names that a target starts with, each is the other. -/
theorem IsLongest.name_eq {target : String} {named : List (String × LevelFilter)}
    {found found' : String × LevelFilter} (h : IsLongest target named found)
    (h' : IsLongest target named found') : found.1 = found'.1 := by
  have hle := h.longest found' h'.mem h'.covers
  have hge := h'.longest found h.mem h.covers
  have hpre := eq_of_prefix_of_le (covers_iff.1 h'.covers) (covers_iff.1 h.covers) hge
  have hpre' := eq_of_prefix_of_le (covers_iff.1 h.covers) (covers_iff.1 h'.covers) hle
  exact String.toList_inj.1 (hpre.eq_of_length_le hpre'.length_le)

/-- Where no name is repeated, the longest name that a target starts with has its threshold. -/
theorem IsLongest.filterFor_eq {t : LogTargets} {target : String} {found : String × LevelFilter}
    (h : IsLongest target t.named found) (hnodup : (t.named.map Prod.fst).Nodup) :
    t.filterFor target = found.2 := by
  rcases t.filterFor_cases target with ⟨found', hfound', heq⟩ | ⟨hnone, -⟩
  · -- one name has one threshold
    rw [heq, List.inj_on_of_nodup_map hnodup hfound'.mem h.mem (hfound'.name_eq h)]
  · have huncovered := hnone found h.mem
    simp [h.covers] at huncovered

/-- Sections with distinct names have thresholds with distinct names. -/
theorem nodup_named_ofSections {sections : List (String × LogSection)}
    (h : (sections.map Prod.fst).Nodup) (pick : LogSection → String) :
    ((ofSections pick sections).named.map Prod.fst).Nodup := by
  have hsublist := (sections.filter_sublist (p := fun s => s.1 != LogSection.defaultName)).map
    Prod.fst
  simpa [ofSections, Function.comp_def] using h.sublist hsublist

end LogTargets

/-! ## Sections -/

namespace LogSettings

/-- The section that decides about a target: of those that the target starts with, other than the
default one, it has the longest name. -/
structure Decides (settings : LogSettings) (target name : String) (s : LogSection) : Prop where
  found : settings.get? name = some s
  named : name ≠ LogSection.defaultName
  covers : name.toList <+: target.toList
  longest : ∀ name' s', settings.get? name' = some s' → name' ≠ LogSection.defaultName →
    name'.toList <+: target.toList → name'.toList <+: name.toList

/-- The threshold of targets that no section decides about. -/
def defaultFilter (settings : LogSettings) (pick : LogSection → String) : LevelFilter :=
  ((settings.get? LogSection.defaultName).map fun s => LevelFilter.ofText (pick s)).getD
    (.upTo .info)

/-- The threshold of a named section. -/
def sectionFilter (settings : LogSettings) (pick : LogSection → String) (s : LogSection) :
    LevelFilter :=
  if Text.allBlank (pick s) then settings.defaultFilter pick else LevelFilter.ofText (pick s)

variable {settings : LogSettings} {pick : LogSection → String} {target name : String}

/-- The named thresholds are those of the sections other than the default one. -/
theorem mem_named_ofSections_iff {e : String × LevelFilter} :
    e ∈ (LogTargets.ofSections pick settings.toList).named ↔
      ∃ s, settings.get? e.1 = some s ∧ e.1 ≠ LogSection.defaultName ∧
        e.2 = settings.sectionFilter pick s := by
  obtain ⟨name, filter⟩ := e
  have hdefault : ((settings.toList.lookup LogSection.defaultName).map fun s =>
      LevelFilter.ofText (pick s)).getD (.upTo .info) = settings.defaultFilter pick := rfl
  simp only [LogTargets.ofSections, hdefault, List.mem_map, List.mem_filter, bne_iff_ne, ne_eq,
    Prod.mk.injEq]
  constructor
  · intro h
    obtain ⟨⟨name', s⟩, ⟨hmem, hne⟩, hname, hfilter⟩ := h
    subst hname
    exact ⟨s, (SortedMap.mem_toList_iff _ _ _).1 hmem, hne, hfilter.symm⟩
  · intro h
    obtain ⟨s, hget, hne, hfilter⟩ := h
    exact ⟨(name, s), ⟨(SortedMap.mem_toList_iff _ _ _).2 hget, hne⟩, rfl, hfilter.symm⟩

/-- The section that decides about a target has the longest name among the thresholds. -/
theorem Decides.isLongest {s : LogSection} (h : settings.Decides target name s) :
    LogTargets.IsLongest target (LogTargets.ofSections pick settings.toList).named
      (name, settings.sectionFilter pick s) where
  mem := mem_named_ofSections_iff.2 ⟨s, h.found, h.named, rfl⟩
  covers := LogTargets.covers_iff.2 h.covers
  longest := by
    intro other hother hcovers
    obtain ⟨s', hget, hne, -⟩ := mem_named_ofSections_iff.1 hother
    -- among names that the target starts with, to be longer is to go on behind the other
    obtain ⟨rest, hrest⟩ := h.longest other.1 s' hget hne (LogTargets.covers_iff.1 hcovers)
    have hsize := utf8ByteSize_of_append hrest
    exact hsize ▸ Nat.le_add_right _ _

/-- The threshold of a target is that of the section that decides about it. -/
theorem filterFor_of_decides {s : LogSection} (h : settings.Decides target name s) :
    (LogTargets.ofSections pick settings.toList).filterFor target =
      settings.sectionFilter pick s :=
  h.isLongest.filterFor_eq (LogTargets.nodup_named_ofSections settings.nodup_keys pick)

/-- A target that starts with no name goes by the default section. -/
theorem filterFor_of_uncovered (h : ∀ name s, settings.get? name = some s →
      name ≠ LogSection.defaultName → ¬ name.toList <+: target.toList) :
    (LogTargets.ofSections pick settings.toList).filterFor target =
      settings.defaultFilter pick := by
  rcases (LogTargets.ofSections pick settings.toList).filterFor_cases target with
    ⟨found, hfound, -⟩ | ⟨-, heq⟩
  · obtain ⟨s, hget, hne, -⟩ := mem_named_ofSections_iff.1 hfound.mem
    exact absurd (LogTargets.covers_iff.1 hfound.covers) (h _ s hget hne)
  · exact heq

/-- Some section decides about a target, unless the target starts with no name. -/
theorem exists_decides_or (settings : LogSettings) (target : String) :
    (∃ name s, settings.Decides target name s) ∨
      ∀ name s, settings.get? name = some s → name ≠ LogSection.defaultName →
        ¬ name.toList <+: target.toList := by
  rcases (LogTargets.console settings).filterFor_cases target with ⟨found, hfound, -⟩ | ⟨hnone, -⟩
  · obtain ⟨s, hget, hne, -⟩ := mem_named_ofSections_iff.1 hfound.mem
    refine .inl ⟨found.1, s, hget, hne, LogTargets.covers_iff.1 hfound.covers, ?_⟩
    intro name' s' hget' hne' hcovers'
    have hmem : (name', settings.sectionFilter LogSection.consoleLevel s') ∈
        (LogTargets.console settings).named := mem_named_ofSections_iff.2 ⟨s', hget', hne', rfl⟩
    exact eq_of_prefix_of_le (LogTargets.covers_iff.1 hfound.covers) hcovers'
      (hfound.longest _ hmem (LogTargets.covers_iff.2 hcovers'))
  · refine .inr fun name s hget hne hcovers => ?_
    have hmem : (name, settings.sectionFilter LogSection.consoleLevel s) ∈
        (LogTargets.console settings).named := mem_named_ofSections_iff.2 ⟨s, hget, hne, rfl⟩
    have := hnone _ hmem
    rw [LogTargets.covers_iff.2 hcovers] at this
    simp at this

end LogSettings

end Catalog
