import Catalog.Config.Load
import Catalog.Proofs.SortedEntries
import Catalog.Proofs.Traversal
import Mathlib.Data.List.ReduceOption

/-!
# Files with settings of modules

The settings in the files of a directory are taken over one file after the other, so that the last
file for a module counts. A directory lists its entries in no particular order: whether the files
can be taken over does not depend on it, nor do the settings of a module, unless two files for the
module have different settings.

## Key results

- `ModuleFiles.run_mergeFiles`: files that are taken over one by one, as a traversal
- `ModuleFiles.get?_addAll_of_holds`: the settings of a module that its files agree on
- `Config.withModuleFiles_reordered`: when the order of a directory makes no difference
- `Config.exists_order_dependent`: two files for one module in two orders
-/

namespace Catalog

namespace ModuleFiles

/-! ## Merging -/

/-- Add the settings that were found, one after the other. -/
def addAll (modules : SortedMap Json) (found : List (Option (String × Json))) : SortedMap Json :=
  found.reduceOption.foldl (fun m e => m.insert e.1 e.2) modules

theorem get?_addAll (modules : SortedMap Json) (found : List (Option (String × Json)))
    (name : String) : (addAll modules found).get? name =
      (found.reduceOption.reverse.lookup name).or (modules.get? name) :=
  SortedMap.get?_foldl_insert _ _ _

/-- After merging, a module has the settings of some entry for it, or those of before when there is
none. -/
theorem get?_addAll_cases (modules : SortedMap Json) (found : List (Option (String × Json)))
    (name : String) :
    (∃ settings, some (name, settings) ∈ found ∧
      (addAll modules found).get? name = some settings) ∨
    ((∀ settings, some (name, settings) ∉ found) ∧
      (addAll modules found).get? name = modules.get? name) := by
  rw [get?_addAll]
  cases hlast : found.reduceOption.reverse.lookup name with
  | some settings =>
    obtain ⟨before, after, hsplit, -⟩ := SortedMap.lookup_reverse_eq_some_iff.1 hlast
    refine .inl ⟨settings, ?_, rfl⟩
    rw [← List.reduceOption_mem_iff, hsplit]
    exact List.mem_append_right before List.mem_cons_self
  | none =>
    refine .inr ⟨fun settings hmem => ?_, rfl⟩
    rw [SortedMap.lookup_reverse_eq_none_iff] at hlast
    rw [← List.reduceOption_mem_iff] at hmem
    exact hlast (List.mem_map_of_mem (f := Prod.fst) hmem)

/-! ## What a directory holds -/

section Directory

variable {f g : FileAccess Id} {directory name module : String} {settings : Json}

/-- A name in a directory is that of a file with settings of a module. -/
structure Holds (f : FileAccess Id) (directory name module : String) (settings : Json) : Prop where
  named : moduleName? name = some module
  isFile : (f.kind? (Path.join directory name)).run = some .file
  read : ∃ text, (f.readText (Path.join directory name)).run = .ok text ∧
    readSettings (Path.join directory name) text = .ok settings

/-- What is found under a name in a directory: settings of a module, or nothing. -/
def Yields (f : FileAccess Id) (directory name : String) (found : Option (String × Json)) : Prop :=
  (readModule f directory name).run = .ok found

/-- Files are read one after the other, until one of them is refused. -/
theorem run_mergeFiles (modules : SortedMap Json) (names : List String) :
    (mergeFiles f directory modules names).run =
      (names.mapM fun name => (readModule f directory name).run).map (addAll modules) := by
  induction names generalizing modules with
  | nil => rfl
  | cons name names ih =>
    rw [mergeFiles, Id.run_bind, List.mapM_cons]
    cases (readModule f directory name).run with
    | error e => rfl
    | ok found =>
      -- the rest is merged into the modules with what the first file holds
      have hrest : ((do return found :: (← names.mapM fun name => (readModule f directory name).run)) :
          Except ModuleFileError _).map (addAll modules) =
          (names.mapM fun name => (readModule f directory name).run).map
            (addAll (addAll modules [found])) := by
        cases names.mapM fun name => (readModule f directory name).run with
        | error e => rfl
        | ok rest => cases found <;> rfl
      refine Eq.trans ?_ hrest.symm
      cases found with
      | none => exact ih modules
      | some e => exact ih (modules.insert e.1 e.2)

theorem Yields.unique {found found' : Option (String × Json)} (h : Yields f directory name found)
    (h' : Yields f directory name found') : found = found' :=
  Except.ok.inj (h.symm.trans h')

/-- The settings that are found under a name are those of a file. -/
theorem yields_some_iff :
    Yields f directory name (some (module, settings)) ↔
      Holds f directory name module settings := by
  unfold Yields readModule FileAccess.isFile
  simp only [Id.run_bind, Id.run_pure]
  constructor
  · intro h
    split at h
    · next hnamed hfile =>
      rw [Id.run_bind] at h
      cases hread : (f.readText (Path.join directory name)).run with
      | error e => rw [hread] at h; cases h
      | ok text =>
        rw [hread] at h
        obtain ⟨settings', hsettings, hpair⟩ := map_eq_ok_iff.1 h
        cases hpair
        exact ⟨hnamed, by simpa using hfile, text, hread, hsettings⟩
    · cases h
  · intro h
    obtain ⟨text, htext, hread⟩ := h.read
    simp only [h.named, h.isFile, beq_self_eq_true, Id.run_bind, htext]
    exact map_eq_ok_iff.2 ⟨settings, hread, rfl⟩

/-- The names that are listed first and last make no difference to the settings of a module that its
files agree on. -/
theorem get?_addAll_of_holds {names : List String} {found : List (Option (String × Json))}
    (h : List.Forall₂ (Yields f directory) names found) (modules : SortedMap Json)
    (hagree : ∀ name ∈ names, ∀ settings', Holds f directory name module settings' →
      settings' = settings)
    (hname : name ∈ names) (hholds : Holds f directory name module settings) :
    (addAll modules found).get? module = some settings := by
  rcases get?_addAll_cases modules found module with ⟨settings', hmem, hget⟩ | ⟨hnone, -⟩
  · obtain ⟨name', hname', hyields⟩ := exists_of_forall₂_right h hmem
    rw [hget, hagree name' hname' settings' (yields_some_iff.1 hyields)]
  · obtain ⟨found', hmem, hyields⟩ := exists_of_forall₂_left h hname
    rw [hyields.unique (yields_some_iff.2 hholds)] at hmem
    exact absurd hmem (hnone settings)

/-- A module without files keeps its settings. -/
theorem get?_addAll_of_not_holds {names : List String} {found : List (Option (String × Json))}
    (h : List.Forall₂ (Yields f directory) names found) (modules : SortedMap Json)
    (hnone : ∀ name ∈ names, ∀ settings, ¬ Holds f directory name module settings) :
    (addAll modules found).get? module = modules.get? module := by
  rcases get?_addAll_cases modules found module with ⟨settings, hmem, -⟩ | ⟨-, hget⟩
  · obtain ⟨name, hname, hyields⟩ := exists_of_forall₂_right h hmem
    exact absurd (yields_some_iff.1 hyields) (hnone name hname settings)
  · exact hget

/-- The file that is listed last tells the settings of its module. -/
theorem get?_addAll_concat {names : List String} {found : List (Option (String × Json))}
    (h : List.Forall₂ (Yields f directory) (names ++ [name]) found) (modules : SortedMap Json)
    (hholds : Holds f directory name module settings) :
    (addAll modules found).get? module = some settings := by
  have hreverse := List.forall₂_reverse_iff.2 h
  rw [List.reverse_append, List.reverse_singleton, List.singleton_append,
    List.forall₂_cons_left_iff] at hreverse
  obtain ⟨last, rest, hlast, -, hfound⟩ := hreverse
  obtain rfl := hlast.unique (yields_some_iff.2 hholds)
  rw [← List.reverse_reverse found, hfound, get?_addAll]
  simp [List.reduceOption_append, List.reduceOption_singleton]

end Directory

end ModuleFiles

namespace Config

open ModuleFiles

/-! ## The order of a directory -/

section Order

variable {c d : Config} {f g : FileAccess Id} {directory : String} {names : List String}

/-- The same files, with directories that may list their names in another order. -/
structure Reordered (f g : FileAccess Id) : Prop where
  kind? : ∀ path, (g.kind? path).run = (f.kind? path).run
  readText : ∀ path, (g.readText path).run = (f.readText path).run
  entryNames : ∀ directory,
    (∃ e e', (f.entryNames directory).run = .error e ∧ (g.entryNames directory).run = .error e') ∨
    ∃ names names', (f.entryNames directory).run = .ok names ∧
      (g.entryNames directory).run = .ok names' ∧ names.Perm names'

/-- The directory of module files, which exists, and the names that it lists. -/
structure ModuleNames (c : Config) (f : FileAccess Id) (directory : String) (names : List String) :
    Prop where
  configured : c.modulesDir = some directory
  present : (f.kind? directory).run ≠ none
  listed : (f.entryNames directory).run = .ok names

/-- Two files for the module hold different settings. -/
def Contested (c : Config) (f : FileAccess Id) (module : String) : Prop :=
  ∃ directory names, c.ModuleNames f directory names ∧
    ∃ name ∈ names, ∃ name' ∈ names, ∃ settings settings', settings ≠ settings' ∧
      Holds f directory name module settings ∧ Holds f directory name' module settings'

theorem Reordered.holds_iff (h : Reordered f g) {name module : String} {settings : Json} :
    Holds g directory name module settings ↔ Holds f directory name module settings := by
  constructor
  · intro hholds
    exact ⟨hholds.named, h.kind? _ ▸ hholds.isFile, by rw [← h.readText]; exact hholds.read⟩
  · intro hholds
    exact ⟨hholds.named, (h.kind? _).trans hholds.isFile, by rw [h.readText]; exact hholds.read⟩

theorem Reordered.yields_iff (h : Reordered f g) {name : String}
    {found : Option (String × Json)} :
    Yields g directory name found ↔ Yields f directory name found := by
  simp only [Yields, readModule, FileAccess.isFile, Id.run_bind, Id.run_pure, h.kind?]
  split
  · simp only [Id.run_bind, h.readText]
  · exact Iff.rfl

/-- What is taken over of the files in a directory, if all of them can be. -/
theorem withModuleFiles_eq_ok_iff (h : c.ModuleNames f directory names) :
    (c.withModuleFiles f).run = .ok d ↔ ∃ found, List.Forall₂ (Yields f directory) names found ∧
      d = { c with modules := addAll c.modules found } := by
  have hrun : (c.withModuleFiles f).run =
      (((names.mapM fun name => (readModule f directory name).run).map (addAll c.modules)).map
        fun modules => { c with modules }).mapError .invalidModuleFiles := by
    obtain ⟨kind, hkind⟩ := Option.ne_none_iff_exists'.1 h.present
    unfold withModuleFiles merge
    simp only [h.configured, Id.run_bind, hkind, h.listed, run_mergeFiles]
    cases names.mapM fun name => (readModule f directory name).run <;> rfl
  rw [hrun]
  cases hread : names.mapM fun name => (readModule f directory name).run with
  | error e =>
    refine ⟨nofun, fun hfound => ?_⟩
    obtain ⟨found, hfound, -⟩ := hfound
    cases hread.symm.trans ((mapM_eq_ok_iff _ _ _).2 hfound)
  | ok found =>
    constructor
    · intro hok
      exact ⟨found, (mapM_eq_ok_iff _ _ _).1 hread, (Except.ok.inj hok).symm⟩
    · intro hfound
      obtain ⟨found', hfound', rfl⟩ := hfound
      cases hread.symm.trans ((mapM_eq_ok_iff _ _ _).2 hfound')
      rfl

/-- Files of modules can be taken over when each of them can. -/
theorem exists_withModuleFiles_iff (h : c.ModuleNames f directory names) :
    (∃ d, (c.withModuleFiles f).run = .ok d) ↔
      ∀ name ∈ names, ∃ found, Yields f directory name found := by
  simp only [withModuleFiles_eq_ok_iff h]
  constructor
  · intro hok name hname
    obtain ⟨d, found, hfound, -⟩ := hok
    obtain ⟨found', -, hyields⟩ := exists_of_forall₂_left hfound hname
    exact ⟨found', hyields⟩
  · intro hall
    obtain ⟨found, hfound⟩ := exists_forall₂_of_forall_mem hall
    exact ⟨_, found, hfound, rfl⟩

/-- Without a directory that exists nothing is taken over. -/
theorem withModuleFiles_of_absent
    (h : ∀ directory, c.modulesDir = some directory → (f.kind? directory).run = none) :
    (c.withModuleFiles f).run = .ok c := by
  unfold withModuleFiles
  split
  · rfl
  · next directory hconfigured =>
    rw [Id.run_bind, h directory hconfigured]
    rfl

/-- A directory that cannot be listed is an error. -/
theorem withModuleFiles_of_unlisted (hconfigured : c.modulesDir = some directory)
    (hpresent : (f.kind? directory).run ≠ none) {e : FileError}
    (he : (f.entryNames directory).run = .error e) :
    (c.withModuleFiles f).run = .error (.invalidModuleFiles (.unreadable e)) := by
  obtain ⟨kind, hkind⟩ := Option.ne_none_iff_exists'.1 hpresent
  unfold withModuleFiles merge
  simp only [hconfigured, Id.run_bind, hkind, he]
  rfl

/-- Two orders of a directory give a module that is not contested the same settings. -/
theorem get?_addAll_of_reordered {names' : List String} (h : Reordered f g)
    (hf : c.ModuleNames f directory names) (hperm : names.Perm names')
    {found found' : List (Option (String × Json))}
    (hfound : List.Forall₂ (Yields f directory) names found)
    (hfound' : List.Forall₂ (Yields g directory) names' found') {module : String}
    (hmodule : ¬ c.Contested f module) :
    (addAll c.modules found').get? module = (addAll c.modules found).get? module := by
  by_cases hholds : ∃ name ∈ names, ∃ settings, Holds f directory name module settings
  · obtain ⟨name, hname, settings, hholds⟩ := hholds
    have hagree : ∀ name' ∈ names, ∀ settings', Holds f directory name' module settings' →
        settings' = settings := by
      intro name' hname' settings' hholds'
      by_contra hne
      exact hmodule ⟨directory, names, hf, name', hname', name, hname, settings', settings, hne,
        hholds', hholds⟩
    rw [get?_addAll_of_holds hfound c.modules hagree hname hholds]
    refine get?_addAll_of_holds hfound' c.modules (fun name' hname' settings' hholds' => ?_)
      (hperm.mem_iff.1 hname) (h.holds_iff.2 hholds)
    exact hagree name' (hperm.mem_iff.2 hname') settings' (h.holds_iff.1 hholds')
  · have hnone : ∀ name ∈ names, ∀ settings, ¬ Holds f directory name module settings :=
      fun name hname settings hholds' => hholds ⟨name, hname, settings, hholds'⟩
    rw [get?_addAll_of_not_holds hfound c.modules hnone]
    apply get?_addAll_of_not_holds hfound' c.modules
    intro name hname settings hholds'
    exact hnone name (hperm.mem_iff.2 hname) settings (h.holds_iff.1 hholds')

/-- Two orders of a directory both fail, or both give modules that agree but for those that are
contested. -/
theorem withModuleFiles_of_reordered (c : Config) (h : Reordered f g) :
    (∃ e e', (c.withModuleFiles f).run = .error e ∧ (c.withModuleFiles g).run = .error e') ∨
    ∃ modules modules', (c.withModuleFiles f).run = .ok { c with modules } ∧
      (c.withModuleFiles g).run = .ok { c with modules := modules' } ∧
      ∀ module, ¬ c.Contested f module → modules'.get? module = modules.get? module := by
  by_cases habsent : ∀ directory, c.modulesDir = some directory → (f.kind? directory).run = none
  · have habsent' : ∀ directory, c.modulesDir = some directory → (g.kind? directory).run = none :=
      fun directory hconfigured => (h.kind? directory).trans (habsent directory hconfigured)
    exact .inr ⟨c.modules, c.modules, withModuleFiles_of_absent habsent,
      withModuleFiles_of_absent habsent', fun _ _ => rfl⟩
  · simp only [not_forall] at habsent
    obtain ⟨directory, hconfigured, hpresent⟩ := habsent
    have hpresent' : (g.kind? directory).run ≠ none := by rwa [h.kind?]
    rcases h.entryNames directory with ⟨e, e', he, he'⟩ | ⟨names, names', hlisted, hlisted', hperm⟩
    · exact .inl ⟨_, _, withModuleFiles_of_unlisted hconfigured hpresent he,
        withModuleFiles_of_unlisted hconfigured hpresent' he'⟩
    · have hf : c.ModuleNames f directory names := ⟨hconfigured, hpresent, hlisted⟩
      have hg : c.ModuleNames g directory names' := ⟨hconfigured, hpresent', hlisted'⟩
      -- whether each file can be taken over does not depend on the order
      have hiff : (∃ d, (c.withModuleFiles g).run = .ok d) ↔
          ∃ d, (c.withModuleFiles f).run = .ok d := by
        rw [exists_withModuleFiles_iff hf, exists_withModuleFiles_iff hg]
        simp only [h.yields_iff, hperm.mem_iff]
      cases hfrun : (c.withModuleFiles f).run with
      | error e =>
        cases hgrun : (c.withModuleFiles g).run with
        | error e' => exact .inl ⟨e, e', rfl, rfl⟩
        | ok d =>
          obtain ⟨d', hd'⟩ := hiff.1 ⟨d, hgrun⟩
          cases hfrun.symm.trans hd'
      | ok d =>
        obtain ⟨d', hgrun⟩ := hiff.2 ⟨d, hfrun⟩
        obtain ⟨found, hfound, rfl⟩ := (withModuleFiles_eq_ok_iff hf).1 hfrun
        obtain ⟨found', hfound', rfl⟩ := (withModuleFiles_eq_ok_iff hg).1 hgrun
        exact .inr ⟨_, _, rfl, hgrun, fun module hmodule =>
          get?_addAll_of_reordered h hf hperm hfound hfound' hmodule⟩

/-- The same files with a directory that lists these names. -/
def listing (f : FileAccess Id) (directory : String) (names : List String) :
    FileAccess Id :=
  { f with entryNames := fun path => if path = directory then pure (.ok names) else f.entryNames path }

theorem reordered_listing {names' : List String}
    (h : (f.entryNames directory).run = .ok names) (hperm : names.Perm names') :
    Reordered f (listing f directory names') where
  kind? _ := rfl
  readText _ := rfl
  entryNames path := by
    by_cases hpath : path = directory
    · subst hpath
      exact .inr ⟨names, names', h, by simp [listing], hperm⟩
    · have hother : (listing f directory names').entryNames path = f.entryNames path := by
        simp [listing, hpath]
      rw [hother]
      cases hlisted : (f.entryNames path).run with
      | error e => exact .inl ⟨e, e, rfl, rfl⟩
      | ok names => exact .inr ⟨names, names, rfl, rfl, .refl names⟩

/-- A file that is listed last tells the settings of its module. -/
theorem exists_reordered_of_holds (hf : c.ModuleNames f directory names)
    (hok : (c.withModuleFiles f).run = .ok d) {name module : String} {settings : Json}
    (hname : name ∈ names) (hholds : Holds f directory name module settings) :
    ∃ g, Reordered f g ∧ ∃ d', (c.withModuleFiles g).run = .ok d' ∧
      d'.modules.get? module = some settings := by
  have hperm : names.Perm (names.erase name ++ [name]) :=
    (List.perm_cons_erase hname).trans (List.perm_append_singleton _ _).symm
  have hreordered := reordered_listing hf.listed hperm
  have hg : c.ModuleNames (listing f directory (names.erase name ++ [name])) directory
      (names.erase name ++ [name]) := ⟨hf.configured, hf.present, by simp [listing]⟩
  obtain ⟨d', hd'⟩ := (exists_withModuleFiles_iff hg).2 fun name' hname' => by
    obtain ⟨found, hfound⟩ := (exists_withModuleFiles_iff hf).1 ⟨d, hok⟩ name'
      (hperm.mem_iff.2 hname')
    exact ⟨found, hreordered.yields_iff.2 hfound⟩
  obtain ⟨found, hfound, rfl⟩ := (withModuleFiles_eq_ok_iff hg).1 hd'
  exact ⟨_, hreordered, _, hd', get?_addAll_concat hfound c.modules (hreordered.holds_iff.2 hholds)⟩

end Order

/-- Whether the files of modules can be taken over does not depend on the order in which their
directory lists them, nor do the settings of a module, unless two files for it have different
settings; and only such a module makes a difference. -/
theorem withModuleFiles_reordered (f : FileAccess Id) (c : Config) :
    (∀ g, Reordered f g →
      (∃ e e', (c.withModuleFiles f).run = .error e ∧ (c.withModuleFiles g).run = .error e') ∨
      ∃ modules modules', (c.withModuleFiles f).run = .ok { c with modules } ∧
        (c.withModuleFiles g).run = .ok { c with modules := modules' } ∧
        ∀ module, ¬ c.Contested f module → modules'.get? module = modules.get? module) ∧
    ((∃ d, (c.withModuleFiles f).run = .ok d) →
      ((∀ g, Reordered f g → (c.withModuleFiles g).run = (c.withModuleFiles f).run) ↔
        ∀ module, ¬ c.Contested f module)) := by
  refine ⟨fun g h => withModuleFiles_of_reordered c h, fun hok => ⟨fun hsame => ?_, fun hnone => ?_⟩⟩
  · intro module hcontested
    obtain ⟨directory, names, hf, name, hname, name', hname', settings, settings', hne, hholds,
      hholds'⟩ := hcontested
    obtain ⟨d, hd⟩ := hok
    -- either of the two files may be the last one
    obtain ⟨g, hg, d₁, hd₁, hget⟩ := exists_reordered_of_holds hf hd hname hholds
    obtain ⟨g', hg', d₂, hd₂, hget'⟩ := exists_reordered_of_holds hf hd hname' hholds'
    obtain rfl : d₁ = d₂ := by
      have h := hd₁.symm.trans ((hsame g hg).trans ((hsame g' hg').symm.trans hd₂))
      exact Except.ok.inj h
    exact hne (Option.some.inj (hget.symm.trans hget'))
  · intro g hg
    obtain ⟨d, hd⟩ := hok
    rcases withModuleFiles_of_reordered c hg with ⟨e, -, he, -⟩ | ⟨modules, modules', hf, hg, hagree⟩
    · cases hd.symm.trans he
    · rw [hf, hg, SortedMap.ext_get? fun module => hagree module (hnone module)]

/-- A directory with these files, by name. -/
def filesIn (directory : String) (files : List (String × String)) : FileAccess Id where
  currentDirectory := pure "/"
  kind? path := pure <|
    if path = directory then some .directory
    else if files.any fun file => Path.join directory file.1 = path then some .file else none
  readText path := pure <|
    match files.find? fun file => Path.join directory file.1 = path with
    | some file => .ok file.2
    | none => .error .notFound
  entryNames path := pure <|
    if path = directory then .ok (files.map Prod.fst) else .error .notFound
  makeDirectory _ := pure (.error .alreadyExists)
  append _ _ := pure (.error .isDirectory)

/-- The text that a loaded configuration has for a setting of a module. -/
def settingText? (r : Except ConfigError Config) (module key : String) : Option String :=
  match r with
  | .ok c => ((c.modules.get? module).bind fun j => j.get? key).bind Json.string?
  | .error _ => none

theorem exists_of_settingText? {r : Except ConfigError Config} {module key text : String}
    (h : settingText? r module key = some text) : ∃ c, r = .ok c ∧
      ((c.modules.get? module).bind fun j => j.get? key).bind Json.string? = some text := by
  cases r with
  | error e => cases h
  | ok c => exact ⟨c, rfl, h⟩

/-- A configuration with module files in a directory. -/
def withDirectory (directory : String) : Config where
  modulesDir := some directory

/-- Files for two modules, and one for none. -/
def twoModules : FileAccess Id :=
  filesIn "/d" [("movies.YAML", "sort: title\n"), ("query.yml", "sort: year\n"), ("readme", "")]

/-- The files for two modules, taken over from the last one to the first. -/
theorem withModuleFiles_reordered_sample :
    (withDirectory "/d").ModuleNames twoModules "/d" ["movies.YAML", "query.yml", "readme"] ∧
    Reordered twoModules (listing twoModules "/d" ["readme", "query.yml", "movies.YAML"]) ∧
    ∃ d, ((withDirectory "/d").withModuleFiles twoModules).run = .ok d ∧
      ((withDirectory "/d").withModuleFiles
        (listing twoModules "/d" ["readme", "query.yml", "movies.YAML"])).run = .ok d := by
  have hnames : (withDirectory "/d").ModuleNames twoModules "/d"
      ["movies.YAML", "query.yml", "readme"] := ⟨rfl, by decide, rfl⟩
  have hreordered : Reordered twoModules
      (listing twoModules "/d" ["readme", "query.yml", "movies.YAML"]) :=
    reordered_listing hnames.listed (by decide)
  have hnone : ∀ module, ¬ (withDirectory "/d").Contested twoModules module := by
    rintro module ⟨directory, names, hf, name, hname, name', hname', settings, settings', hne,
      hholds, hholds'⟩
    obtain rfl : "/d" = directory := Option.some.inj hf.configured
    obtain rfl : ["movies.YAML", "query.yml", "readme"] = names :=
      Except.ok.inj (hnames.listed.symm.trans hf.listed)
    -- no two of the names are for one module
    have hsame : name = name' := by
      have hnamed := hholds.named.trans hholds'.named.symm
      have hsome : (moduleName? name).isSome = true := by rw [hholds.named]; rfl
      clear hholds hholds'
      revert hname hname' hnamed hsome
      simp only [List.mem_cons, List.not_mem_nil, or_false]
      rintro (rfl | rfl | rfl) (rfl | rfl | rfl) <;> decide
    subst hsame
    have hyields := (yields_some_iff.2 hholds).unique (yields_some_iff.2 hholds')
    cases hyields
    exact hne rfl
  obtain ⟨-, hiff⟩ := withModuleFiles_reordered twoModules (withDirectory "/d")
  obtain ⟨d, hd, -⟩ := exists_of_settingText?
    (r := ((withDirectory "/d").withModuleFiles twoModules).run)
    (show settingText? _ "movies" "sort" = some "title" by decide +kernel)
  exact ⟨hnames, hreordered, d, hd, ((hiff ⟨d, hd⟩).2 hnone _ hreordered).trans hd⟩

/-- Two files for one module. -/
def oneModule : FileAccess Id :=
  filesIn "/d" [("movies.yaml", "sort: title\n"), ("movies.yml", "sort: year\n")]

/-- Two files for one module in two orders give it two settings. -/
theorem exists_order_dependent :
    Reordered oneModule (listing oneModule "/d" ["movies.yml", "movies.yaml"]) ∧
    ∃ d d', ((withDirectory "/d").withModuleFiles oneModule).run = .ok d ∧
      ((withDirectory "/d").withModuleFiles
        (listing oneModule "/d" ["movies.yml", "movies.yaml"])).run = .ok d' ∧
      d.modules ≠ d'.modules := by
  obtain ⟨d, hd, htext⟩ := exists_of_settingText?
    (r := ((withDirectory "/d").withModuleFiles oneModule).run)
    (show settingText? _ "movies" "sort" = some "year" by decide +kernel)
  obtain ⟨d', hd', htext'⟩ := exists_of_settingText?
    (r := ((withDirectory "/d").withModuleFiles
      (listing oneModule "/d" ["movies.yml", "movies.yaml"])).run)
    (show settingText? _ "movies" "sort" = some "title" by decide +kernel)
  refine ⟨reordered_listing rfl (by decide), d, d', hd, hd', fun heq => ?_⟩
  rw [heq, htext'] at htext
  exact absurd htext (by decide)

end Config

end Catalog
