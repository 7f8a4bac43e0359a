import Catalog.Config.Load
import Catalog.Files.Tree
import Catalog.Proofs.EnvironmentSettings
import Catalog.Proofs.ModuleFiles
import Catalog.Proofs.MovieDocuments

/-!
# Layers of a configuration

The environment stands above the configuration file and the defaults, and the command line above the
environment: a variable for the port, or for a setting of a module, tells the setting. A file with
settings of a module stands above both, for it replaces all settings of the module, and without a
configuration file the environment does not count.

## Key results

- `Config.exists_of_ofLayers`: what the environment sets is set in the layers of a configuration
- `Config.loadFile_cases`: what loading a configuration from a file comes to
- `Config.load_environment`: the settings of the environment in a loaded configuration
- `Config.exists_environment_overruled`: variables that are overruled, or not understood
-/

namespace Catalog

/-! ## Objects in documents -/

namespace Yaml.Value

mutual

/-- The JSON form of a document has its keys in order. -/
theorem ordered_toJson : (v : Value) → {j : Json} → v.toJson = .ok j → j.Ordered
  | .null, _, h => by cases h; exact .leaf nofun
  | .bool _, _, h => by cases h; exact .leaf nofun
  | .int _, _, h => by cases h; exact .leaf nofun
  | .double _, _, h => by cases h; exact .leaf nofun
  | .string _, _, h => by cases h; exact .leaf nofun
  | .sequence items, _, h => by
    obtain ⟨values, -, rfl⟩ := map_eq_ok_iff.1 h
    exact .leaf nofun
  | .mapping entries, _, h => by
    obtain ⟨fields, hfields, rfl⟩ := map_eq_ok_iff.1 h
    exact ordered_entriesToJson .empty entries hfields
  | .tagged tag value, _, h => by
    obtain ⟨j, hj, h⟩ := exists_of_bind_eq_ok h
    cases h
    exact (ordered_toJson value hj).nested ["!" ++ tag]

theorem ordered_entriesToJson {acc : Json.Fields} (hacc : (Json.object acc).Ordered) :
    (entries : List (Value × Value)) → {fields : Json.Fields} →
      entriesToJson acc entries = .ok fields → (Json.object fields).Ordered
  | [], _, h => by cases h; exact hacc
  | (key, value) :: entries, _, h => by
    obtain ⟨k, -, h⟩ := exists_of_bind_eq_ok h
    obtain ⟨v, hv, h⟩ := exists_of_bind_eq_ok h
    exact ordered_entriesToJson (hacc.insert k (ordered_toJson value hv)) entries h

end

end Yaml.Value

/-! ## Reading merged layers -/

namespace Json

theorem RecordShape.open_object {shape : RecordShape} {fields : Fields} {record : Record}
    (h : shape.open (.object fields) = .ok record) : record = .named fields := by
  obtain ⟨-, -, h⟩ := exists_of_bind_eq_ok h
  cases h
  rfl

theorem Record.required_named {α : Type} {fields : Fields} {name : String} {value : Json}
    (h : fields.lookup name = some value) (decode : Decoder α) :
    (Record.named fields).required name decode = decode value := by
  simp only [Record.required, Record.find?, h]

theorem Record.optional_named {α : Type} {fields : Fields} {name : String} {value : Json}
    (h : fields.lookup name = some value) (decode : Decoder α) (default : α) :
    (Record.named fields).optional name decode default = decode value := by
  simp only [Record.optional, Record.find?, h]

theorem uint16_number (n : UInt16) :
    Decoder.uint16 (.number (.int n.toNat)) = .ok n := by
  have hrange : (0 : Int) ≤ n.toNat ∧ (n.toNat : Int) ≤ 0xFFFF := by
    have := n.toNat_lt
    omega
  rw [Decoder.uint16, Decoder.intBetween, if_pos hrange]
  show Except.ok (UInt16.ofNat (n.toNat : Int).toNat) = _
  rw [Int.toNat_natCast, UInt16.ofNat_toNat]

/-- A map of values that are made finite has the values of the fields of an ordered object. -/
theorem get?_of_map_finite {fields : Fields} (h : (object fields).Ordered) {m : SortedMap Json}
    (hm : Decoder.map (fun j => .ok j.finite) (.object fields) = .ok m) (key : String) :
    m.get? key = (fields.lookup key).map finite := by
  have hentries : (fields.mapM fun entry => do
      pure (entry.1, ← (.ok entry.2.finite : Except DecodeError Json))) =
        .ok (finiteFields fields) := by
    clear h hm
    induction fields with
    | nil => rfl
    | cons field fields ih =>
      rw [List.mapM_cons, ih]
      rfl
  rw [Decoder.map] at hm
  simp only at hm
  rw [hentries] at hm
  cases hm
  have hkeys : (finiteFields fields).Pairwise fun a b => a.1 < b.1 := by
    rw [← List.pairwise_map (f := Prod.fst) (R := fun a b : String => a < b), map_fst_finiteFields,
      List.pairwise_map]
    exact h.keys
  rw [SortedMap.get?_ofList, SortedMap.lookup_reverse_of_pairwise hkeys, lookup_finiteFields]

end Json

/-- The port of decoded server settings. -/
theorem ServerSettings.port_of_decode {j : Json} {s : ServerSettings} {port : UInt16}
    (h : decode j = .ok s) (hport : j.at? ["port"] = some (.number (.int port.toNat))) :
    s.port = port := by
  obtain ⟨fields, inner, rfl, hlookup, hinner⟩ := Json.exists_of_at?_cons hport
  obtain rfl := Option.some.inj hinner
  obtain ⟨record, hopen, h⟩ := exists_of_bind_eq_ok h
  obtain rfl := Json.RecordShape.open_object hopen
  obtain ⟨homeDir, -, h⟩ := exists_of_bind_eq_ok h
  obtain ⟨host, -, h⟩ := exists_of_bind_eq_ok h
  obtain ⟨port', hport', h⟩ := exists_of_bind_eq_ok h
  cases h
  rw [Json.Record.required_named hlookup, Json.uint16_number] at hport'
  exact (Except.ok.inj hport').symm

namespace Config

/-- The server settings and the modules of a decoded configuration. -/
theorem parts_of_decode {fields : Json.Fields} {c : Config}
    (h : decode (.object fields) = .ok c) :
    (∀ value, fields.lookup "server" = some value → ServerSettings.decode value = .ok c.server) ∧
    ∀ value, fields.lookup "modules" = some value →
      Json.Decoder.map (fun j => .ok j.finite) value = .ok c.modules := by
  obtain ⟨record, hopen, h⟩ := exists_of_bind_eq_ok h
  obtain rfl := Json.RecordShape.open_object hopen
  obtain ⟨server, hserver, h⟩ := exists_of_bind_eq_ok h
  obtain ⟨logging, -, h⟩ := exists_of_bind_eq_ok h
  obtain ⟨modulesDir, -, h⟩ := exists_of_bind_eq_ok h
  obtain ⟨modules, hmodules, h⟩ := exists_of_bind_eq_ok h
  cases h
  constructor
  · intro value hvalue
    rwa [Json.Record.required_named hvalue] at hserver
  · intro value hvalue
    rwa [Json.Record.optional_named hvalue] at hmodules

/-! ## Merged layers -/

theorem ordered_fileLayer? {text : String} {layer : Json} (h : fileLayer? text = some layer) :
    layer.Ordered := by
  unfold fileLayer? at h
  obtain ⟨document, -, h⟩ := Option.bind_eq_some_iff.1 h
  simp only at h
  split at h
  · cases h; exact .empty
  · cases h; exact .empty
  · obtain ⟨value, -, h⟩ := Option.bind_eq_some_iff.1 h
    cases hj : value.toJson with
    | error e => simp only [hj] at h; cases h
    | ok j =>
      simp only [hj] at h
      cases h
      exact value.ordered_toJson hj
  · cases h

theorem ordered_base : base.toJson.canonical.Ordered := by
  have hserver : (Json.object [("home_dir", .string ""), ("host", .string "127.0.0.1"),
      ("port", Json.nat 3000)]).Ordered :=
    .object (by decide) (by simp [Json.nat]; exact ⟨.leaf nofun, .leaf nofun, .leaf nofun⟩)
  have hbase : base.toJson.canonical = .object [("logging", .null), ("modules", .object []),
      ("modules_dir", .null), ("server", .object [("home_dir", .string ""),
        ("host", .string "127.0.0.1"), ("port", Json.nat 3000)])] := by rfl
  rw [hbase]
  refine .object (by decide) ?_
  simp only [List.mem_cons, List.not_mem_nil, or_false, forall_eq_or_imp, forall_eq]
  exact ⟨.leaf nofun, .empty, .leaf nofun, hserver⟩

/-- What the environment sets to a number is set in the layers that a configuration is read from. -/
theorem exists_of_ofLayers {text : String} {env : Environment} {c : Config}
    (h : ofLayers text env = .ok c) : ∃ layers : Json, layers.Ordered ∧ decode layers = .ok c ∧
      ∀ path n, env.settings.at? path = some (.number n) → layers.at? path = some (.number n) := by
  unfold ofLayers at h
  split at h
  · cases h
  · next layer hlayer =>
    split at h
    · next c' hdecode =>
      cases h
      have hfile := ordered_base.overlay (ordered_fileLayer? hlayer)
      refine ⟨_, hfile.overlay env.ordered_settings, hdecode, fun path n hset => ?_⟩
      exact Json.at?_overlay_of_number env.ordered_settings hset
    · cases h

/-- The port that the environment sets. -/
theorem port_of_ofLayers {text : String} {env : Environment} {c : Config} {port : UInt16}
    (h : ofLayers text env = .ok c)
    (hport : env.settings.at? ["server", "port"] = some (.number (.int port.toNat))) :
    c.server.port = port := by
  obtain ⟨layers, -, hdecode, hset⟩ := exists_of_ofLayers h
  obtain ⟨fields, server, rfl, hserver, hinner⟩ := Json.exists_of_at?_cons (hset _ _ hport)
  exact ServerSettings.port_of_decode ((parts_of_decode hdecode).1 server hserver) hinner

/-- The integer that the environment sets for a module. -/
theorem modules_of_ofLayers {text : String} {env : Environment} {c : Config} {module key : String}
    {n : Int} (h : ofLayers text env = .ok c)
    (hset : env.settings.at? ["modules", module, key] = some (.number (.int n))) :
    ∃ settings, c.modules.get? module = some settings ∧
      settings.get? key = some (Json.int n) := by
  obtain ⟨layers, hordered, hdecode, hlayers⟩ := exists_of_ofLayers h
  obtain ⟨fields, modules, rfl, hmodules, hinner⟩ := Json.exists_of_at?_cons (hlayers _ _ hset)
  obtain ⟨entries, settings, rfl, hsettings, hvalue⟩ := Json.exists_of_at?_cons hinner
  obtain ⟨values, value, rfl, hlookup, hnumber⟩ := Json.exists_of_at?_cons hvalue
  obtain rfl := Option.some.inj hnumber
  have hmap := (parts_of_decode hdecode).2 _ hmodules
  refine ⟨Json.finite (.object values), ?_, ?_⟩
  · rw [Json.get?_of_map_finite (hordered.of_lookup hmodules) hmap, hsettings, Option.map_some]
  · rw [Json.finite]
    show (Json.finiteFields values).lookup key = _
    rw [Json.lookup_finiteFields, hlookup, Option.map_some]
    rfl

/-! ## Loading -/

section Loading

variable {σ α β : Type} {files : FileAccess (StateM σ)} {env : Environment} {c c' : Config}
  {s s' : σ}

/-- A computation that goes on after a step goes on from what the step leaves. -/
theorem exists_of_run_bind {x : StateM σ α} {f : α → StateM σ β} {b : β}
    (h : (x >>= f).run s = (b, s')) : ∃ a s₁, x.run s = (a, s₁) ∧ (f a).run s₁ = (b, s') :=
  ⟨_, _, rfl, h⟩

/-- Resolving the home directory changes nothing else. -/
theorem withHome_cases (h : (c.withHome files env).run s = (.ok c', s')) :
    ∃ home, c' = { c with server := { c.server with homeDir := home } } := by
  obtain ⟨resolved, s₁, -, h⟩ := exists_of_run_bind h
  cases resolved with
  | error e => cases h
  | ok path =>
    cases h
    exact ⟨path, rfl⟩

/-- What is found under the names of a directory, which are read one after the other. -/
inductive Finds (files : FileAccess (StateM σ)) (directory : String) :
    σ → List String → List (Option (String × Json)) → σ → Prop where
  /-- Without names nothing is read. -/
  | nil (s : σ) : Finds files directory s [] [] s
  /-- A name is read, and the others from what that leaves. -/
  | cons {s s₁ s' : σ} {name : String} {names : List String} {found : Option (String × Json)}
      {rest : List (Option (String × Json))}
      (hread : (ModuleFiles.readModule files directory name).run s = (.ok found, s₁))
      (hrest : Finds files directory s₁ names rest s') :
      Finds files directory s (name :: names) (found :: rest) s'

/-- Files that are taken over have been read one after the other. -/
theorem exists_finds_of_run_mergeFiles {directory : String} {modules merged : SortedMap Json}
    {names : List String}
    (h : (ModuleFiles.mergeFiles files directory modules names).run s = (.ok merged, s')) :
    ∃ found, Finds files directory s names found s' ∧
      merged = ModuleFiles.addAll modules found := by
  induction names generalizing modules s with
  | nil =>
    cases h
    exact ⟨[], .nil _, rfl⟩
  | cons name names ih =>
    rw [ModuleFiles.mergeFiles] at h
    obtain ⟨result, s₁, hread, h⟩ := exists_of_run_bind h
    cases result with
    | error e => cases h
    | ok found =>
      cases found with
      | none =>
        obtain ⟨rest, hrest, rfl⟩ := ih h
        exact ⟨none :: rest, .cons hread hrest, rfl⟩
      | some e =>
        obtain ⟨rest, hrest, rfl⟩ := ih h
        exact ⟨some e :: rest, .cons hread hrest, rfl⟩

/-- What the files of the directory of module files hold, which are the last thing that is read, is
taken over, unless there is no such directory. -/
theorem withModuleFiles_cases (h : (c.withModuleFiles files).run s = (.ok c', s')) :
    c' = c ∨ ∃ directory s₁ s₂ names found, c.modulesDir = some directory ∧
      (files.entryNames directory).run s₁ = (.ok names, s₂) ∧
      Finds files directory s₂ names found s' ∧
      c' = { c with modules := ModuleFiles.addAll c.modules found } := by
  unfold withModuleFiles at h
  split at h
  · cases h
    exact .inl rfl
  · next directory hconfigured =>
    obtain ⟨kind, s₁, -, h⟩ := exists_of_run_bind h
    cases kind with
    | none => cases h; exact .inl rfl
    | some kind =>
      obtain ⟨merged, s₂, hmerge, h⟩ := exists_of_run_bind h
      obtain ⟨listed, s₃, hlisted, hmerge⟩ := exists_of_run_bind hmerge
      cases listed with
      | error e =>
        cases hmerge
        cases h
      | ok names =>
        cases merged with
        | error e => cases h
        | ok modules =>
          cases h
          obtain ⟨found, hfound, rfl⟩ := exists_finds_of_run_mergeFiles hmerge
          exact .inr ⟨directory, s₁, s₃, names, found, hconfigured, hlisted, hfound, rfl⟩

/-- A configuration that is loaded from a file is that of its layers, with a home directory, and
then with the files of modules. -/
theorem loadFile_cases {path : String} (h : (loadFile files env path).run s = (.ok c', s')) :
    ∃ text c home s₁, ofLayers text env = .ok c ∧
      (withModuleFiles files { c with server := { c.server with homeDir := home } }).run s₁ =
        (.ok c', s') := by
  obtain ⟨isFile, s₁, -, h⟩ := exists_of_run_bind h
  cases isFile with
  | false => cases h
  | true =>
    obtain ⟨read, s₂, -, h⟩ := exists_of_run_bind h
    cases read with
    | error e => cases h
    | ok text =>
      simp only at h
      cases hlayers : ofLayers text env with
      | error e => rw [hlayers] at h; cases h
      | ok c =>
        rw [hlayers] at h
        obtain ⟨resolved, s₃, hhome, h⟩ := exists_of_run_bind h
        cases resolved with
        | error e => cases h
        | ok c₁ =>
          obtain ⟨home, rfl⟩ := withHome_cases hhome
          exact ⟨text, c, home, s₃, hlayers, h⟩

/-- A file in a directory of module files holds these settings of a module, as the directory is read
last of all. -/
def InModuleFile (files : FileAccess (StateM σ)) (directory : String) (s' : σ) (module : String)
    (settings : Json) : Prop :=
  ∃ s s₁ names found, (files.entryNames directory).run s = (.ok names, s₁) ∧
    Finds files directory s₁ names found s' ∧ some (module, settings) ∈ found

/-- A module keeps the settings of the layers, or has those of a file. -/
theorem get?_of_loadFile {path : String} (h : (loadFile files env path).run s = (.ok c', s')) :
    ∃ text c, ofLayers text env = .ok c ∧ c'.server.port = c.server.port ∧
      ∀ module, c'.modules.get? module = c.modules.get? module ∨
        ∃ directory settings, c'.modulesDir = some directory ∧
          InModuleFile files directory s' module settings ∧
          c'.modules.get? module = some settings := by
  obtain ⟨text, c, home, s₁, hlayers, h⟩ := loadFile_cases h
  refine ⟨text, c, hlayers, ?_⟩
  rcases withModuleFiles_cases h with
    rfl | ⟨directory, s₂, s₃, names, found, hdir, hlisted, hfound, rfl⟩
  · exact ⟨rfl, fun module => .inl rfl⟩
  · refine ⟨rfl, fun module => ?_⟩
    rcases ModuleFiles.get?_addAll_cases c.modules found module with
      ⟨settings, hmem, hget⟩ | ⟨-, hget⟩
    · exact .inr ⟨directory, settings, hdir, ⟨s₂, s₃, names, found, hlisted, hfound, hmem⟩, hget⟩
    · exact .inl hget

end Loading

/-- What the environment sets in a loaded configuration. Without a configuration file it sets
nothing. With one, a variable that no later one overrides sets the port, which only the command line
overrides, and the settings of modules, which only files of modules replace. -/
theorem load_environment {σ : Type} (files : FileAccess (StateM σ)) (env : Environment)
    (path : Option String) (s s' : σ) (c : Config)
    (h : (load files env path).run s = (.ok c, s')) :
    (path = none → ∃ home, c = { server := { homeDir := home } }) ∧
    (path ≠ none →
      (∀ (text : String) (port : UInt16),
        env.Prevails "APP__SERVER__PORT" text ["server", "port"] →
        Numeral.IntegerText text.toList port.toNat →
        c.server.port = port ∧
          ∀ option verbose, (c.override option verbose).server.port = option.getD port) ∧
      ∀ (module key text : String) (n : Int), Environment.NamesSetting module key →
        env.Prevails (Environment.moduleVariable module key) text
          ["modules", Environment.lower module, Environment.lower key] →
        Numeral.IntegerText text.toList n → -2 ^ 63 ≤ n → n < 2 ^ 64 →
        (∃ settings, c.modules.get? (Environment.lower module) = some settings ∧
          settings.get? (Environment.lower key) = some (Json.int n)) ∨
        ∃ directory settings, c.modulesDir = some directory ∧
          InModuleFile files directory s' (Environment.lower module) settings ∧
          c.modules.get? (Environment.lower module) = some settings) := by
  cases path with
  | none =>
    refine ⟨fun _ => ?_, fun hpath => absurd rfl hpath⟩
    obtain ⟨resolved, s₁, hhome, h⟩ := exists_of_run_bind h
    cases resolved with
    | error e => cases h
    | ok c₁ =>
      cases h
      exact withHome_cases hhome
  | some path =>
    refine ⟨nofun, fun _ => ?_⟩
    obtain ⟨file, layered, hlayers, hport, hmodules⟩ := get?_of_loadFile h
    constructor
    · intro text port hprevails htext
      have hvalue := SettingText.value_of_integerText htext (by omega)
        (by have := port.toNat_lt; omega)
      have hset := env.at?_settings hprevails Environment.settingWords?_serverPort hvalue
      have heq : c.server.port = port := hport.trans (port_of_ofLayers hlayers hset)
      refine ⟨heq, fun option verbose => ?_⟩
      show option.getD c.server.port = _
      rw [heq]
    · intro module key text n hname hprevails htext hlow hhigh
      have hvalue := SettingText.value_of_integerText htext hlow hhigh
      have hset := env.at?_settings hprevails (Environment.settingWords?_moduleVariable hname) hvalue
      rcases hmodules (Environment.lower module) with hkept | hfile
      · rw [hkept]
        exact .inl (modules_of_ofLayers hlayers hset)
      · exact .inr hfile

/-- The configuration that is loaded from files below `/r` in an environment, if it is. -/
def loaded (files env : List (String × String)) (path : Option String) : Option Config :=
  match ((load FileTree.access ⟨env⟩ path).run (.ofFiles "/r" files)).1 with
  | .ok c => some c
  | .error _ => none

theorem exists_of_isSome_loaded {files env : List (String × String)} {path : Option String}
    (h : (loaded files env path).isSome = true) :
    ∃ c s', (load FileTree.access ⟨env⟩ path).run (.ofFiles "/r" files) =
      (.ok c, s') := by
  unfold loaded at h
  generalize (load FileTree.access ⟨env⟩ path).run (.ofFiles "/r" files) = r at h
  obtain ⟨result, s'⟩ := r
  cases result with
  | error e => cases h
  | ok c => exact ⟨c, s', rfl⟩

/-- A file with settings of the server and of movies, and one with settings of another module. -/
def layeredFiles : List (String × String) :=
  [("c.yaml", "server: \x7bport: 1\x7d\nmodules_dir: /r/d\nmodules: \x7bmovies: \x7bsize: 1\x7d\x7d\n"),
    ("d/other.yaml", "size: 2\n")]

/-- Variables for the port, for the host, in a map of the server's settings, and for the setting of
movies. -/
def layeredEnvironment : List (String × String) :=
  [("APP__SERVER__PORT", "8080"), ("HOME", "/r/h"), ("APP__SERVER", "\x7bhost=localhost\x7d"),
    ("APP__MODULES__MOVIES__SIZE", "77")]

theorem load_environment_sample : ∃ c s',
    (load FileTree.access ⟨layeredEnvironment⟩ (some "/r/c.yaml")).run
      (.ofFiles "/r" layeredFiles) = (.ok c, s') ∧
    c.server.port = 8080 ∧ (c.override (some 9090) 0).server.port = 9090 ∧
    ((∃ settings, c.modules.get? "movies" = some settings ∧
        settings.get? "size" = some (Json.int 77)) ∨
      ∃ directory settings, c.modulesDir = some directory ∧
        InModuleFile FileTree.access directory s' "movies" settings ∧
        c.modules.get? "movies" = some settings) := by
  obtain ⟨c, s', hload⟩ := exists_of_isSome_loaded
    (show (loaded layeredFiles layeredEnvironment (some "/r/c.yaml")).isSome = true by
      decide +kernel)
  have hblank : ∀ c ∈ "SIZE".toList.getLast?, Text.isBlank c = false := by
    intro c hc
    obtain rfl : 'E' = c := Option.some.inj hc
    decide
  have hname : Environment.NamesSetting "MOVIES" "SIZE" :=
    ⟨⟨by decide, by decide, by decide⟩, ⟨by decide, by decide, by decide⟩, by decide, hblank⟩
  have hport : Numeral.IntegerText "8080".toList 8080 := Numeral.integerText_intText 8080
  have hsize : Numeral.IntegerText "77".toList 77 := Numeral.integerText_intText 77
  -- a later map that has no port leaves the port alone
  have hfirst : Environment.Prevails ⟨layeredEnvironment⟩ "APP__SERVER__PORT" "8080"
      ["server", "port"] := ⟨[], layeredEnvironment.tail, rfl, by decide +kernel⟩
  have hlast : Environment.Prevails ⟨layeredEnvironment⟩ "APP__MODULES__MOVIES__SIZE" "77"
      ["modules", "movies", "size"] :=
    ⟨layeredEnvironment.dropLast, [], rfl, List.forall_mem_nil _⟩
  obtain ⟨-, h⟩ := load_environment FileTree.access ⟨layeredEnvironment⟩ (some "/r/c.yaml") _ s' c
    hload
  obtain ⟨hserver, hmodule⟩ := h nofun
  obtain ⟨hset, hoption⟩ := hserver "8080" 8080 hfirst hport
  refine ⟨c, s', hload, hset, hoption (some 9090) 0, ?_⟩
  exact hmodule "MOVIES" "SIZE" "77" 77 hname hlast hsize (by decide) (by decide)

/-- The integer that a configuration has for a setting of a module. -/
def integer? (c : Config) (module key : String) : Option Int :=
  match (c.modules.get? module).bind fun settings => settings.get? key with
  | some (.number (.int n)) => some n
  | _ => none

/-- The home directory of the user, and one more variable. -/
def oneVariable (name text : String) : List (String × String) :=
  [("HOME", "/r/h"), (name, text)]

/-- Variables that do not set what they name: there is no configuration file, a file of the module
replaces the setting, a later variable names it in other letters, or a map above it, the name of the
module ends with an underscore or has a point, that of the setting ends with a blank, or the integer
is not one of 64 bits. Of two variables for a setting the later one counts, in either order. -/
theorem exists_environment_overruled :
    (loaded [] (oneVariable "APP__SERVER__PORT" "8080") none).map (·.server.port) = some 3000 ∧
    (loaded [("c.yaml", "modules_dir: /r/d\n"), ("d/m.yaml", "k: 1\n")]
      (oneVariable "APP__MODULES__M__K" "5") (some "/r/c.yaml")).map (·.integer? "m" "k") =
        some (some 1) ∧
    (loaded [("c.yaml", "")] (oneVariable "APP__SERVER__PORT" "8080" ++
      [("app__server__port", "9090")]) (some "/r/c.yaml")).map (·.server.port) = some 9090 ∧
    (loaded [("c.yaml", "")] (oneVariable "app__server__port" "9090" ++
      [("APP__SERVER__PORT", "8080")]) (some "/r/c.yaml")).map (·.server.port) = some 8080 ∧
    (loaded [("c.yaml", "")] (oneVariable "APP__SERVER__PORT" "8080" ++
      [("APP__SERVER", "\x7bport=9090\x7d")]) (some "/r/c.yaml")).map (·.server.port) = some 9090 ∧
    (loaded [("c.yaml", "")] (oneVariable "APP__SERVER" "\x7bport=9090\x7d" ++
      [("APP__SERVER__PORT", "8080")]) (some "/r/c.yaml")).map (·.server.port) = some 8080 ∧
    (loaded [("c.yaml", "")] (oneVariable "APP__MODULES__M___K" "5") (some "/r/c.yaml")).map
      (·.integer? "m_" "k") = some none ∧
    (loaded [("c.yaml", "")] (oneVariable "APP__MODULES__A.B__K" "5") (some "/r/c.yaml")).map
      (·.integer? "a.b" "k") = some none ∧
    (loaded [("c.yaml", "")] (oneVariable "APP__MODULES__M__K " "5") (some "/r/c.yaml")).map
      (·.integer? "m" "k ") = some none ∧
    (loaded [("c.yaml", "")] (oneVariable "APP__MODULES__M__K" "18446744073709551617")
      (some "/r/c.yaml")).map (·.integer? "m" "k") = some none := by
  refine ⟨?nofile, ?moduleFile, ?later, ?earlier, ?laterMap, ?earlierMap, ?underscore, ?point,
    ?blank, ?range⟩ <;> decide +kernel

end Config

end Catalog
