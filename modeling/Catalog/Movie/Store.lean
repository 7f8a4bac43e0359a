import Catalog.Json.Parser
import Catalog.Movie.Basic
import Catalog.Query.Page

/-!
# The movie store

Movies in the order in which their identifiers first came, each beside the document that queries
look at. Main statements: `ids_upsert` and `find?_upsert` say what an upsert does to the order and
to look-ups.
-/

namespace Catalog

/-- A movie beside its document. -/
structure StoredMovie where
  /-- The movie. -/
  movie : Movie
  /-- Its document. -/
  document : Document

/-- A movie with its document. -/
def StoredMovie.ofMovie (m : Movie) : StoredMovie := ⟨m, m.document⟩

/-- Stored movies in order. -/
abbrev Store := List StoredMovie

namespace Store

/-- The identifiers in order. -/
def ids (s : Store) : List String := s.map (·.movie.id)

/-- The movies in order. -/
def movies (s : Store) : List Movie := s.map (·.movie)

/-- The movie of an identifier. -/
def find? (s : Store) (id : String) : Option Movie :=
  (List.find? (fun e => e.movie.id == id) s).map (·.movie)

/-- Store a movie: in the place of the one with its identifier, or at the end. -/
def upsert (m : Movie) : Store → Store
  | [] => [.ofMovie m]
  | e :: rest => if e.movie.id = m.id then .ofMovie m :: rest else e :: upsert m rest

/-- Store movies one after the other. -/
def ofMovies (movies : List Movie) : Store :=
  movies.foldl (fun s m => upsert m s) []

theorem ids_upsert (m : Movie) (s : Store) :
    (upsert m s).ids = if m.id ∈ s.ids then s.ids else s.ids ++ [m.id] := by
  induction s with
  | nil => simp [upsert, ids, StoredMovie.ofMovie]
  | cons e rest ih =>
    by_cases h : e.movie.id = m.id
    · simp [upsert, h, ids, StoredMovie.ofMovie]
    · have hne : m.id ≠ e.movie.id := fun he => h he.symm
      simp only [ids] at ih
      simp only [upsert, h, if_false, ids, List.map_cons, ih, List.mem_cons, hne, false_or]
      split
      · next hm => simpa using hm
      · next hm => simpa using hm

theorem find?_upsert (m : Movie) (s : Store) (id : String) :
    (upsert m s).find? id = if id = m.id then some m else s.find? id := by
  induction s with
  | nil =>
    by_cases h : id = m.id
    · simp [upsert, find?, StoredMovie.ofMovie, h]
    · have : ¬ m.id = id := fun he => h he.symm
      simp [upsert, find?, StoredMovie.ofMovie, h, this]
  | cons e rest ih =>
    simp only [find?] at ih ⊢
    by_cases h : e.movie.id = m.id
    · by_cases hid : id = m.id
      · simp [upsert, h, StoredMovie.ofMovie, hid]
      · have hm : ¬ m.id = id := fun he => hid he.symm
        simp [upsert, h, StoredMovie.ofMovie, hid, hm]
    · simp only [upsert, h, if_false, List.find?_cons]
      by_cases he : e.movie.id = id
      · have hid : ¬ id = m.id := fun hid => h (he.trans hid)
        simp [he, hid]
      · have hb : (e.movie.id == id) = false := by simpa using he
        simp [hb, ih]

/-! ## Queries -/

/-- The stored movies that a filter holds of, sorted; equal ones keep their order. -/
def matching (s : Store) (filter : CompiledFilter) (sort : SortSpec) : List StoredMovie :=
  stableSort (fun a b => sort.compareDocuments a.document b.document == .lt)
    (s.filter fun e => filter.holds e.document)

/-- Evaluate a query and cut one page out of the result. It fails only if a pattern does not
compile. -/
def findPage? (s : Store) (filter : Predicate) (sort : SortSpec) (page : PageRequest) :
    Option (Page Movie) :=
  filter.compile?.map fun filter =>
    let found := s.matching filter sort
    { items := ((found.drop page.skip.toNat).take page.limit.toNat).map (·.movie)
      descriptor := page.describe (UInt64.ofNat found.length) }

/-! ## Fixtures -/

/-- The movies of a JSON array of movies, if the text is one. -/
def readFixtures? (text : String) : Option (List Movie) :=
  match (Json.parse? text).map (Json.Decoder.list Movie.decode) with
  | some (.ok movies) => some movies
  | _ => none

end Store

end Catalog
