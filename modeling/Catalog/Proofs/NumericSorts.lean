import Catalog.Proofs.DocumentOrder
import Catalog.Proofs.MovieDocuments
import Catalog.Proofs.Upserts

/-!
# Sorting movies by numbers

The years, the minutes and the ratings of movies are numbers, or null where a rating is none. The
order by such fields is transitive, so that the sorted listing is told by two rules alone: no movie
is greater than a later one, and movies that are level under all keys stand in the order in which
they first came to the store, whatever the directions are.

## Key results

- `SortSpec.compareDocuments_trans_of_numeric`: numbers and nulls are ordered transitively
- `Store.matching_eq_iff_sorted`: the listing by numeric fields is the only list that keeps the rules
-/

namespace Catalog

namespace SortSpec

/-- The documents are level under every sort key. -/
def Level (sort : SortSpec) (a b : Document) : Prop :=
  ∀ key ∈ sort, Json.compareOptional (a.lookup key.field) (b.lookup key.field) = .eq

theorem compareDocuments_eq_iff {sort : SortSpec} {a b : Document} :
    sort.compareDocuments a b = .eq ↔ sort.Level a b := by
  induction sort with
  | nil => simp [compareDocuments, Level]
  | cons key keys ih =>
    simp only [compareDocuments, Ordering.then_eq_eq, Direction.apply_eq_eq_iff, ih, Level,
      List.forall_mem_cons]

/-- Under every sort key the document holds a number or null, if anything. -/
def Numeric (sort : SortSpec) (d : Document) : Prop :=
  ∀ key ∈ sort, ∀ value, d.lookup key.field = some value →
    value = .null ∨ ∃ n, value = .number n

/-- No text stands between numbers. -/
private theorem Numeric.not_between {sort : SortSpec} {a b c : Document} (ha : sort.Numeric a) :
    ¬ sort.Between a b c := by
  intro h
  -- `h : Json.Between _ _ _` has texts at its ends
  induction h with
  | ascending hx _ _ h =>
    rcases ha _ List.mem_cons_self _ hx with rfl | ⟨n, rfl⟩ <;> cases h
  | descending hx _ _ h =>
    rcases ha _ List.mem_cons_self _ hx with rfl | ⟨n, rfl⟩ <;> cases h
  | later _ _ _ ih => exact ih fun key hkey => ha key (List.mem_cons_of_mem _ hkey)

/-- Numbers and nulls are ordered transitively: a circle would need a text. -/
theorem compareDocuments_trans_of_numeric (sort : SortSpec) (a b c : Document)
    (ha : sort.Numeric a) (hb : sort.Numeric b) (hc : sort.Numeric c)
    (hab : sort.compareDocuments a b ≠ .gt) (hbc : sort.compareDocuments b c ≠ .gt) :
    sort.compareDocuments a c ≠ .gt := by
  intro hac
  have hcircle := Circle.of_ne_trans (compareDocuments_swap sort) hab hbc hac
  rcases between_of_circle sort hcircle with h | h | h
  · exact ha.not_between h
  · exact hb.not_between h
  · exact hc.not_between h

end SortSpec

namespace Movie

/-- The fields of movies that hold numbers. -/
def numericFields : List String := ["year", "runtime", "imdb_rating"]

/-- The document of a movie holds a number in these fields, or null for a rating that is none. -/
theorem numeric_document (m : Movie) {sort : SortSpec}
    (hsort : ∀ key ∈ sort, key.field ∈ numericFields) : sort.Numeric m.document := by
  intro key hkey value hvalue
  rw [lookup_document] at hvalue
  have hfield := hsort key hkey
  simp only [numericFields, List.mem_cons, List.not_mem_nil, or_false] at hfield
  rcases hfield with hfield | hfield | hfield <;> rw [hfield] at hvalue
  · exact .inr ⟨_, (Option.some.inj hvalue).symm⟩
  · exact .inr ⟨_, (Option.some.inj hvalue).symm⟩
  · -- a rating that is not finite becomes null
    have hrating : value = (Json.double m.rating).finite.canonical := (Option.some.inj hvalue).symm
    rw [hrating, Json.double, Json.finite]
    split
    · exact .inr ⟨_, rfl⟩
    · exact .inl rfl

end Movie

namespace Store

/-- The list `found` holds what a run of upserts stored and a filter holds of, in the order of sort
keys. -/
structure Sorted (run : List Movie) (filter : CompiledFilter) (sort : SortSpec)
    (found : List StoredMovie) : Prop where
  /-- It holds the stored movies that match, each as often as it is stored. -/
  perm : found.Perm ((ofMovies run).filter fun e => filter.holds e.document)
  /-- No movie is greater than a later one. -/
  ascending : found.Pairwise fun a b => sort.compareDocuments a.document b.document ≠ .gt
  /-- Movies that are level stand in the order in which they first came, in either direction. -/
  ties : found.Pairwise fun a b => sort.Level a.document b.document →
    firstAt run a.movie.id < firstAt run b.movie.id

/-- The relation that a sorted list keeps. -/
private theorem sorted_iff {run : List Movie} {filter : CompiledFilter} {sort : SortSpec}
    {found : List StoredMovie} : Sorted run filter sort found ↔
      found.Perm ((ofMovies run).filter fun e => filter.holds e.document) ∧
      found.Pairwise (MayPrecede (fun a b => sort.compareDocuments a.document b.document)
        fun a b => firstAt run a.movie.id < firstAt run b.movie.id) := by
  constructor
  · intro h
    refine ⟨h.perm, (h.ascending.and h.ties).imp ?_⟩
    intro a b hab
    exact ⟨hab.1, fun heq => hab.2 (SortSpec.compareDocuments_eq_iff.1 heq)⟩
  · intro h
    obtain ⟨hperm, hpairwise⟩ := h
    refine ⟨hperm, hpairwise.imp fun hab => hab.1, hpairwise.imp ?_⟩
    intro a b hab hlevel
    exact hab.2 (SortSpec.compareDocuments_eq_iff.2 hlevel)

/-- The stored movies stand in the order in which they first came, each beside its document. -/
private theorem follows_ofMovies (run : List Movie) : (ofMovies run).Follows run :=
  follows_nil.upsertAll run

/-- A listing by numeric fields is the only list of the matches in which no movie is greater than a
later one and level movies stand in the order in which they first came. So the pages of the listing
are those of any list with these properties, whichever way it was sorted. -/
theorem matching_eq_iff_sorted (run : List Movie) (p : Predicate) (filter : CompiledFilter)
    (hp : p.compile? = some filter) (sort : SortSpec)
    (hsort : ∀ key ∈ sort, key.field ∈ Movie.numericFields) :
    (∀ found, Sorted run filter sort found ↔ found = (ofMovies run).matching filter sort) ∧
    ∀ found, Sorted run filter sort found → ∀ r : PageRequest,
      (ofMovies run).findPage? p sort r =
        some { items := ((found.drop r.skip.toNat).take r.limit.toNat).map (·.movie)
               descriptor := r.describe (UInt64.ofNat found.length) } := by
  have hfollows := follows_ofMovies run
  have hswap : ∀ a b : StoredMovie, sort.compareDocuments b.document a.document =
      (sort.compareDocuments a.document b.document).swap :=
    fun a b => SortSpec.compareDocuments_swap sort a.document b.document
  have hsorted : Sorted run filter sort ((ofMovies run).matching filter sort) := by
    refine sorted_iff.2 ⟨perm_matching _ filter sort, ?_⟩
    apply pairwise_stableSort (P := fun e => sort.Numeric e.document) hswap
    · exact fun a b c => SortSpec.compareDocuments_trans_of_numeric sort _ _ _
    · -- the document of a stored movie is that of the movie
      intro e he
      have hdocument : e.document = e.movie.document := by
        have h := hfollows.documents e (List.mem_of_mem_filter he)
        simpa only [Movie.document, Movie.toJson, Json.finite, Json.canonical, Json.object.injEq]
          using h
      rw [hdocument]
      exact e.movie.numeric_document hsort
    · have horder := hfollows.order
      rw [ids, List.pairwise_map] at horder
      exact horder.filter _
  have hunique : ∀ found, Sorted run filter sort found →
      found = (ofMovies run).matching filter sort := by
    -- both lists hold the same movies and keep the rules
    intro found hfound
    obtain ⟨hperm, hpairwise⟩ := sorted_iff.1 hfound
    obtain ⟨hperm', hpairwise'⟩ := sorted_iff.1 hsorted
    apply eq_of_perm_of_mayPrecede hswap _ (hperm.trans hperm'.symm) hpairwise hpairwise'
    intro a b hab hba
    omega
  refine ⟨fun found => ⟨hunique found, fun h => h ▸ hsorted⟩, fun found hfound r => ?_⟩
  rw [hunique found hfound, findPage?_eq hp]
  rfl

/-- Four movies of one year, rated with the two zeros and twice with no number. -/
def ratedRun : List Movie :=
  [{ sampleMovie "a" "Alien" 1979 with rating := ⟨0x8000000000000000⟩ },
    sampleMovie "b" "Manhattan" 1979,
    { sampleMovie "c" "Stalker" 1979 with rating := ⟨0x7FF8000000000000⟩ },
    { sampleMovie "d" "Moonraker" 1979 with rating := ⟨0x7FF0000000000000⟩ }]

/-- The greatest rating first, and then the earliest year. -/
def ratedSort : SortSpec := [⟨"imdb_rating", .desc⟩, ⟨"year", .asc⟩]

/-- Zero comes before its negative; the movies without a rating are level and come last, in the
order in which they were stored. -/
theorem matching_eq_iff_sorted_sample :
    Predicate.compile? .empty = some [] ∧
    (∀ key ∈ ratedSort, key.field ∈ Movie.numericFields) ∧
    ∃ found, Sorted ratedRun [] ratedSort found ∧
      found.map (·.movie.id) = ["b", "a", "c", "d"] ∧
      (ofMovies ratedRun).findPage? .empty ratedSort ⟨2, 3⟩ =
        some { items := ((found.drop 3).take 3).map (·.movie), descriptor := ⟨2, 3, 4⟩ } := by
  have hcompile : Predicate.compile? .empty = some [] := rfl
  have hfields : ∀ key ∈ ratedSort, key.field ∈ Movie.numericFields := by decide
  obtain ⟨hsorted, hpages⟩ :=
    matching_eq_iff_sorted ratedRun .empty [] hcompile ratedSort hfields
  have hfound := (hsorted ((ofMovies ratedRun).matching [] ratedSort)).2 rfl
  exact ⟨hcompile, hfields, _, hfound, by decide +kernel, hpages _ hfound ⟨2, 3⟩⟩

end Store

end Catalog
