import Catalog.Files.Tree
import Catalog.Movie.Startup
import Catalog.Proofs.Paging
import Mathlib.Data.Finset.Card

/-!
# What a run of upserts leaves behind

A store keeps each movie beside its document and replaces both in place. After any run of upserts
its identifiers stand in the order in which they first came, and under each of them is the movie
that came last, with the document of just that movie.

## Key results

- `Store.Follows.upsert`: one upsert keeps a store in step with its run
- `Store.follows_upserts`: every store that upserts lead to follows the run of them
-/

namespace Catalog

namespace Store

/-! ## Runs of upserts -/

/-- The last movie of a run with an identifier. -/
def latest? (run : List Movie) (id : String) : Option Movie :=
  run.reverse.find? fun m => m.id == id

/-- The place in a run where an identifier first comes. -/
def firstAt (run : List Movie) (id : String) : Nat :=
  run.findIdx fun m => m.id == id

/-- A run of upserts on a store. -/
def upsertAll (s : Store) (run : List Movie) : Store :=
  run.foldl (fun s m => upsert m s) s

/-- The store `s` holds what the upserts of `run` leave behind, and both of its reads show it. -/
structure Follows (s : Store) (run : List Movie) : Prop where
  /-- Identifiers do not repeat. -/
  nodup : s.ids.Nodup
  /-- They are those of the run. -/
  mem_ids : ∀ id, id ∈ s.ids ↔ id ∈ run.map (·.id)
  /-- The store is as long as the run has identifiers. -/
  length : s.length = (run.map (·.id)).toFinset.card
  /-- Identifiers stand in the order in which they first came. -/
  order : s.ids.Pairwise fun a b => firstAt run a < firstAt run b
  /-- Under each identifier is the last movie of the run. -/
  movies : s.movies.map some = s.ids.map (latest? run)
  /-- Each document is the JSON form of the movie beside it. -/
  documents : ∀ e ∈ s, Json.object e.document = e.movie.toJson.finite.canonical
  /-- Looking up an identifier finds the last movie of the run, or none. -/
  found : ∀ id, (Repository.ofStore s).findById id = .ok (latest? run id)
  /-- A listing without filter and sort shows the store as it stands, page by page. -/
  listed : ∀ r : PageRequest, (Repository.ofStore s).findPage .empty [] r =
    .ok { items := (s.movies.drop r.skip.toNat).take r.limit.toNat
          descriptor := r.describe (UInt64.ofNat s.length) }

theorem latest?_append (run : List Movie) (m : Movie) (id : String) :
    latest? (run ++ [m]) id = if id = m.id then some m else latest? run id := by
  rw [latest?, List.reverse_append, List.reverse_singleton, List.singleton_append, List.find?_cons]
  by_cases h : id = m.id
  · rw [if_pos h, h, beq_self_eq_true]
  · rw [if_neg h, beq_false_of_ne (Ne.symm h)]
    rfl

/-- Where an identifier of a run first comes does not change when the run goes on. -/
theorem firstAt_append_of_mem {run : List Movie} {id : String} (h : id ∈ run.map (·.id))
    (m : Movie) : firstAt (run ++ [m]) id = firstAt run id := by
  obtain ⟨x, hx, rfl⟩ := List.mem_map.1 h
  have hlt : firstAt run x.id < run.length :=
    List.findIdx_lt_length_of_exists ⟨x, hx, beq_self_eq_true _⟩
  rw [firstAt, List.findIdx_append]
  exact if_pos hlt

/-- A new identifier comes behind all others. -/
theorem firstAt_lt_of_not_mem {run : List Movie} {id : String} (h : id ∈ run.map (·.id))
    {m : Movie} (hm : m.id ∉ run.map (·.id)) :
    firstAt (run ++ [m]) id < firstAt (run ++ [m]) m.id := by
  have hnew : firstAt run m.id = run.length := by
    rw [firstAt, List.findIdx_eq_length]
    intro x hx
    rw [beq_eq_false_iff_ne]
    intro he
    exact hm (List.mem_map.2 ⟨x, hx, he⟩)
  rw [firstAt_append_of_mem h]
  obtain ⟨x, hx, rfl⟩ := List.mem_map.1 h
  have hlt : firstAt run x.id < run.length :=
    List.findIdx_lt_length_of_exists ⟨x, hx, beq_self_eq_true _⟩
  rw [firstAt, firstAt] at *
  rw [List.findIdx_append, hnew, if_neg (Nat.lt_irrefl _)]
  omega

/-! ## Both reads -/

theorem mem_upsert {m : Movie} {s : Store} {e : StoredMovie} (h : e ∈ upsert m s) :
    e = .ofMovie m ∨ e ∈ s := by
  induction s with
  | nil => exact .inl (List.mem_singleton.1 h)
  | cons first rest ih =>
    rw [upsert] at h
    split at h
    · rcases List.mem_cons.1 h with h | h
      · exact .inl h
      · exact .inr (List.mem_cons_of_mem first h)
    · rcases List.mem_cons.1 h with rfl | h
      · exact .inr List.mem_cons_self
      · exact (ih h).imp_right (List.mem_cons_of_mem first)

/-- Without repeated identifiers, each movie is found under its own. -/
theorem movies_eq_find? {s : Store} (h : s.ids.Nodup) : s.movies.map some = s.ids.map s.find? := by
  rw [movies, ids, List.map_map, List.map_map]
  refine List.map_congr_left fun e he => ?_
  obtain ⟨found, hfound⟩ : ∃ found, List.find? (fun x : StoredMovie => x.movie.id == e.movie.id) s =
      some found := by
    rw [← Option.isSome_iff_exists, List.find?_isSome]
    exact ⟨e, he, beq_self_eq_true _⟩
  have hid := List.find?_some hfound
  have hsame : found = e :=
    List.inj_on_of_nodup_map h (List.mem_of_find?_eq_some hfound) he (beq_iff_eq.1 hid)
  show some e.movie = (List.find? (fun x : StoredMovie => x.movie.id == e.movie.id) s).map (·.movie)
  rw [hfound, hsame]
  rfl

/-- Where no element is less than another, insertion puts every element in front. -/
theorem stableSort_of_never_less {α : Type} {less : α → α → Bool} (h : ∀ a b, less a b = false)
    (xs : List α) : stableSort less xs = xs := by
  have hinsert : ∀ x sorted, insertDescending less x sorted = x :: sorted := by
    intro x sorted
    cases sorted with
    | nil => rfl
    | cons y ys => rw [insertDescending, h x y]; rfl
  rw [stableSort]
  simp only [hinsert]
  rw [List.foldl_flip_cons_eq_append', List.append_nil, List.reverse_reverse]

/-- A listing without filter and sort is the store. -/
theorem matching_nil (s : Store) : s.matching [] [] = s := by
  have hall : (s.filter fun e => CompiledFilter.holds [] e.document) = s :=
    List.filter_eq_self.2 fun _ _ => rfl
  rw [matching, hall]
  exact stableSort_of_never_less (fun _ _ => rfl) s

theorem findPage_empty (s : Store) (r : PageRequest) :
    (Repository.ofStore s).findPage .empty [] r =
      .ok { items := (s.movies.drop r.skip.toNat).take r.limit.toNat
            descriptor := r.describe (UInt64.ofNat s.length) } := by
  have hcompile : Predicate.compile? .empty = some [] := rfl
  simp only [Repository.ofStore, findPage?, hcompile, Option.map_some, matching_nil, movies,
    List.map_take, List.map_drop]

/-! ## One step and all steps -/

variable {s : Store} {run : List Movie}

theorem follows_nil : Follows [] [] where
  nodup := .nil
  mem_ids _ := Iff.rfl
  length := rfl
  order := .nil
  movies := rfl
  documents _ h := absurd h List.not_mem_nil
  found _ := rfl
  listed := findPage_empty []

/-- One more upsert keeps a store in step with its run. -/
theorem Follows.upsert (h : s.Follows run) (m : Movie) :
    (Store.upsert m s).Follows (run ++ [m]) := by
  have hids := ids_upsert m s
  have hmem : m.id ∈ s.ids ↔ m.id ∈ run.map (·.id) := h.mem_ids m.id
  -- the new store has the identifiers of the new run, each once
  have hnodup : (Store.upsert m s).ids.Nodup := by
    rw [hids]
    split
    · exact h.nodup
    · next hnew => exact List.nodup_append.2 ⟨h.nodup, List.nodup_singleton _,
        fun a ha b hb hab => hnew (List.mem_singleton.1 hb ▸ hab ▸ ha)⟩
  have hmems : ∀ id, id ∈ (Store.upsert m s).ids ↔ id ∈ (run ++ [m]).map (·.id) := by
    intro id
    rw [hids, List.map_append, List.mem_append, ← h.mem_ids id]
    split
    · next hold =>
      refine ⟨.inl, ?_⟩
      rintro (hid | hid)
      · exact hid
      · rwa [List.mem_singleton.1 hid]
    · rw [List.mem_append]
      rfl
  have hfind : ∀ id, (Store.upsert m s).find? id = latest? (run ++ [m]) id := by
    intro id
    have hold : s.find? id = latest? run id := Except.ok.inj (h.found id)
    rw [find?_upsert, latest?_append, hold]
  refine ⟨hnodup, hmems, ?length, ?order, ?movies, ?documents, ?found, findPage_empty _⟩
  case length =>
    have hlength : (Store.upsert m s).length = (Store.upsert m s).ids.length := by
      rw [ids, List.length_map]
    rw [hlength, ← List.toFinset_card_of_nodup hnodup]
    congr 1
    ext id
    rw [List.mem_toFinset, List.mem_toFinset]
    exact hmems id
  case order =>
    have hbefore : s.ids.Pairwise fun a b => firstAt (run ++ [m]) a < firstAt (run ++ [m]) b := by
      refine h.order.imp_of_mem fun ha hb hab => ?_
      rwa [firstAt_append_of_mem ((h.mem_ids _).1 ha), firstAt_append_of_mem ((h.mem_ids _).1 hb)]
    rw [hids]
    split
    · exact hbefore
    · next hnew =>
      refine List.pairwise_append.2 ⟨hbefore, List.pairwise_singleton _ _, fun a ha b hb => ?_⟩
      rw [List.mem_singleton.1 hb]
      exact firstAt_lt_of_not_mem ((h.mem_ids a).1 ha) fun hm => hnew (hmem.2 hm)
  case movies =>
    rw [movies_eq_find? hnodup]
    exact List.map_congr_left fun id _ => hfind id
  case documents =>
    intro e he
    rcases mem_upsert he with rfl | he
    · simp only [StoredMovie.ofMovie, Movie.document, Movie.toJson, Json.finite, Json.canonical]
    · exact h.documents e he
  case found => exact fun id => congrArg Except.ok (hfind id)

/-- A run of upserts on a store that follows a run leads to a store that follows both. -/
theorem Follows.upsertAll (h : s.Follows run) (later : List Movie) :
    (s.upsertAll later).Follows (run ++ later) := by
  -- by induction on the run that is still to come
  induction later generalizing s run with
  | nil => rwa [List.append_nil]
  | cons m later ih =>
    have hnext := ih (h.upsert m)
    rwa [List.append_assoc, List.singleton_append] at hnext

/-- The store at the start, from what was read of the file of movies. -/
def startedFrom (settings : MovieSettings) (path : String) :
    Except FileError String → Started Store
  | .error _ => ⟨Startup.announcement settings, .error (.unreadableFixtures path)⟩
  | .ok text =>
    match readFixtures? text with
    | none => ⟨Startup.announcement settings, .error (.invalidFixtures path)⟩
    | some movies =>
      ⟨Startup.announcement settings ++ [Startup.loadedEvent path (ofMovies movies).length],
        .ok (ofMovies movies)⟩

/-- Reading a file of movies at the start upserts them in the order of the file. -/
theorem readStore_eq {m : Type → Type} [Monad m] [LawfulMonad m] (files : FileAccess m)
    {settings : MovieSettings} {name : String} (hname : settings.fixtures? = some name)
    (home : String) :
    ∃ report : Except FileError String → Started Store,
      Startup.readStore files settings home =
        report <$> files.readText (Path.join home name) ∧
      ∀ text movies, readFixtures? text = some movies →
        (report (.ok text)).result = .ok (ofMovies movies) := by
  refine ⟨startedFrom settings (Path.join home name), ?_, ?_⟩
  · simp only [Startup.readStore, hname, map_eq_pure_bind]
    congr 1
    funext read
    cases read with
    | error e => rfl
    | ok text =>
      simp only [startedFrom]
      cases readFixtures? text <;> rfl
  · intro text movies hmovies
    simp only [startedFrom, hmovies]

/-- Whatever is upserted, from the movies to start with on, the store follows the run at every
moment; the movies to start with may come from a file, in which identifiers may repeat. -/
theorem follows_upserts :
    (∀ (initial later : List Movie) (k : Nat),
      ((ofMovies initial).upsertAll (later.take k)).Follows (initial ++ later.take k)) ∧
    ∀ (m : Type → Type) [Monad m] [LawfulMonad m] (files : FileAccess m)
      (settings : MovieSettings) (home name text : String) (movies : List Movie),
      settings.fixtures? = some name → readFixtures? text = some movies →
      ∃ (report : Except FileError String → Started Store) (store : Store),
        Startup.readStore files settings home =
          report <$> files.readText (Path.join home name) ∧
        (report (.ok text)).result = .ok store ∧ store.Follows movies := by
  have hinitial : ∀ initial, (ofMovies initial).Follows initial :=
    fun initial => follows_nil.upsertAll initial
  constructor
  · intro initial later k
    exact (hinitial initial).upsertAll (later.take k)
  · intro m _ _ files settings home name text movies hname hmovies
    obtain ⟨report, hread, hresult⟩ := readStore_eq files hname home
    exact ⟨report, ofMovies movies, hread, hresult text movies hmovies, hinitial movies⟩

/-- Three movies, of which the last takes the place of the first. -/
def sampleRun : List Movie :=
  [sampleMovie "a" "Alien" 1979, sampleMovie "b" "Aliens" 1986, sampleMovie "a" "Alien 3" 1992]

/-- A file of these movies. -/
def sampleFixtures : String :=
  let entry (id title year : String) : String :=
    "\x7b\"id\":\"" ++ id ++ "\",\"title\":\"" ++ title ++ "\",\"year\":" ++ year ++
      ",\"released\":\"1970-01-01T00:00:00Z\"\x7d"
  "[" ++ entry "a" "Alien" "1979" ++ "," ++ entry "b" "Aliens" "1986" ++ "," ++
    entry "a" "Alien 3" "1992" ++ "]"

/-- Settings that name the file. -/
def sampleSettings : MovieSettings := { fixturesPath := some "movies.json" }

/-- The store of the file holds two movies, the later `a` in the place of the first. -/
theorem follows_upserts_sample :
    sampleSettings.fixtures? = some "movies.json" ∧
    readFixtures? sampleFixtures = some sampleRun ∧
    ∃ (report : Except FileError String → Started Store) (store : Store),
      Startup.readStore FileTree.access sampleSettings "/home" =
        report <$> FileTree.access.readText (Path.join "/home" "movies.json") ∧
      (report (.ok sampleFixtures)).result = .ok store ∧ store.Follows sampleRun := by
  have hname : sampleSettings.fixtures? = some "movies.json" := by decide
  have hmovies : readFixtures? sampleFixtures = some sampleRun := by decide +kernel
  exact ⟨hname, hmovies, follows_upserts.2 (StateM FileTree) FileTree.access sampleSettings "/home"
    "movies.json" sampleFixtures sampleRun hname hmovies⟩

example : (ofMovies sampleRun).ids = ["a", "b"] := rfl

end Store

end Catalog
