import Catalog.Proofs.ListRequest
import Catalog.Proofs.ServiceOutcome

/-!
# Accepted filters can be evaluated

Whatever a filter is compiled from, each of its conditions fits the declared type of its field:
patterns that compile for texts, numbers and dates of the right kind for the others. Conditions that
fit compile, so that a listing of the store never fails.

## Key results

- `Filter.fits_of_convert`: a converted value fits the type that it was converted under
- `Predicate.exists_compile?_of_fits`: predicates that fit a schema compile
- `Filter.accepted_evaluates`: accepted filters fit, compile, and never make the store fail
-/

namespace Catalog

/-! ## Conditions and types -/

/-- Tests that values of a type may be put to. -/
inductive Test.Fits : ScalarType → Test → Prop where
  /-- Texts are searched for a pattern that compiles. -/
  | pattern {p : TextPattern} {m : Matcher} (h : p.compile? = some m) : Fits .string (.pattern p)
  /-- Integers are compared with one. -/
  | integer (n : Int64) : Fits .integer (.equals (.integer n))
  /-- Doubles are compared with a finite one. -/
  | float {x : Binary64} (h : x.isFinite = true) : Fits .float (.equals (.float x))
  /-- So are doubles by their other name. -/
  | number {x : Binary64} (h : x.isFinite = true) : Fits .number (.equals (.float x))
  /-- Dates are compared with one. -/
  | date (t : Instant) : Fits .date (.equals (.date t))

/-- Conditions that fields of a type may have. -/
inductive Condition.Fits : FieldType → Condition → Prop where
  /-- A single value has a single test. -/
  | scalar {type : ScalarType} {test : Test} (h : test.Fits type) :
    Fits (.scalar type) (.single test)
  /-- A list, other than one of dates, has tests of one type, and at least one of them. -/
  | arrayOf {type : ScalarType} {tests : List Test} (hdate : type ≠ .date) (hne : tests ≠ [])
    (h : ∀ test ∈ tests, test.Fits type) : Fits (.arrayOf type) (.allOf tests)

/-- Types of fields that filters may name. -/
def FieldType.isFilterable : FieldType → Bool
  | .scalar .boolean | .scalar .object => false
  | .scalar _ => true
  | .arrayOf .date | .arrayOf .boolean | .arrayOf .object => false
  | .arrayOf _ => true

/-- The fields of a predicate are declared, and their conditions fit. -/
def Predicate.Fits (schema : Schema) (p : Predicate) : Prop :=
  ∀ field condition, p.get? field = some condition → ∃ declared,
    schema.get? field = some declared ∧ declared.isFilterable = true ∧ condition.Fits declared

theorem Condition.Fits.isFilterable {declared : FieldType} {condition : Condition}
    (h : condition.Fits declared) : declared.isFilterable = true := by
  cases h with
  | scalar h => cases h <;> rfl
  | arrayOf hdate hne h =>
    -- some test tells the type of the elements
    obtain ⟨test, htest⟩ := List.exists_mem_of_ne_nil _ hne
    cases h test htest with
    | date t => exact absurd rfl hdate
    | _ => rfl

/-! ## Conditions that fit compile -/

theorem Test.Fits.exists_compile? {type : ScalarType} {test : Test} (h : test.Fits type) :
    ∃ compiled, test.compile? = some compiled := by
  cases h with
  | pattern h => exact ⟨.pattern _, by rw [Test.compile?, h, Option.map_some]⟩
  | _ => exact ⟨_, rfl⟩

theorem Condition.Fits.exists_compile? {declared : FieldType} {condition : Condition}
    (h : condition.Fits declared) : ∃ compiled, condition.compile? = some compiled := by
  cases h with
  | scalar h =>
    obtain ⟨compiled, hcompiled⟩ := h.exists_compile?
    exact ⟨.single compiled, by rw [Condition.compile?, hcompiled, Option.map_some]⟩
  | arrayOf _ _ h =>
    -- test by test
    obtain ⟨compiled, hcompiled⟩ :=
      exists_forall₂_of_forall_mem fun test htest => (h test htest).exists_compile?
    exact ⟨.allOf compiled, by
      rw [Condition.compile?, (mapM_eq_some_iff _ _ _).2 hcompiled, Option.map_some]⟩

/-- A predicate that fits a schema compiles. -/
theorem Predicate.exists_compile?_of_fits {schema : Schema} {p : Predicate} (h : p.Fits schema) :
    ∃ compiled, p.compile? = some compiled := by
  refine Predicate.exists_compile? fun field condition hget => ?_
  obtain ⟨declared, -, -, hfits⟩ := h field condition hget
  exact hfits.exists_compile?

namespace Filter

/-! ## What is converted fits -/

/-- What the reader of a type reads fits the type. -/
theorem fits_of_reader? {type : ScalarType} {read : String → List Char → Except QueryError Test}
    (hread : reader? type = some read) {field : String} {raw : List Char} {test : Test}
    (h : read field raw = .ok test) : test.Fits type := by
  cases reads_of_reader? hread h with
  | pattern hp =>
    obtain ⟨m, hm⟩ := Option.isSome_iff_exists.1 hp
    exact .pattern hm
  | integer => exact .integer _
  | float hx => exact .float (Option.filter_eq_some_iff.1 hx).2
  | number hx => exact .number (Option.filter_eq_some_iff.1 hx).2
  | date => exact .date _

/-- A converted value fits the type of its field. -/
theorem fits_of_convert {field : String} {declared : FieldType} {raw : List Char}
    {condition : Condition} (h : convert field declared raw = .ok condition) :
    condition.Fits declared := by
  cases declared with
  | scalar type =>
    rw [convert] at h
    cases hread : reader? type with
    | none => rw [hread] at h; cases h
    | some read =>
      simp only [hread] at h
      cases htest : read field raw with
      | error e => rw [htest] at h; cases h
      | ok test =>
        rw [htest] at h
        cases h
        exact .scalar (fits_of_reader? hread htest)
  | arrayOf type =>
    rw [convert] at h
    cases hread : elementReader? type with
    | none => rw [hread] at h; cases h
    | some read =>
      simp only [hread] at h
      cases htests : (Text.splitOn '|' raw).mapM (read field) with
      | error e => rw [htests] at h; cases h
      | ok tests =>
        rw [htests] at h
        cases h
        have hsteps := (mapM_eq_ok_iff _ _ _).1 htests
        refine .arrayOf ?_ ?_ fun test htest => ?_
        · rintro rfl
          cases hread
        · -- a value has at least one token
          rintro rfl
          exact Text.splitOn_ne_nil '|' raw (List.forall₂_nil_right_iff.1 hsteps)
        · obtain ⟨token, -, htoken⟩ := exists_of_forall₂_right hsteps htest
          exact fits_of_reader? (reader?_of_elementReader? hread) htoken

/-- The predicate of an accepted filter fits the schema. -/
theorem fits_of_compile {schema : Schema} {filter : Option String} {p : Predicate}
    (h : compile schema filter = .ok p) : p.Fits schema := by
  intro field condition hget
  have hempty : ∀ {c : Condition}, (SortedMap.empty : Predicate).get? field ≠ some c :=
    fun h => nomatch h
  cases filter with
  | none =>
    cases h
    exact absurd hget hempty
  | some text =>
    by_cases htext : text = ""
    · subst htext
      cases h
      exact absurd hget hempty
    · -- the condition is that of the last clause of the field
      have hrel := rel_lastValue?_get? htext h field
      rw [hget] at hrel
      generalize lastValue? text field = value at hrel
      cases hrel with
      | some hraw =>
        obtain ⟨declared, hdeclared, hconvert⟩ := hraw
        have hfits := fits_of_convert hconvert
        exact ⟨declared, hdeclared, hfits.isFilterable, hfits⟩

/-! ## Evaluation -/

/-- Listing the store fails with the fault of the query, if at all. -/
theorem list_ne_storage {service : MovieService} {s : Store}
    (hstored : service.repository = .ofStore s) (params : ListParams) (message : String) :
    service.list params ≠ .error (.storage message) := by
  intro h
  rcases MovieService.list_error_cases h with ⟨cause, he, -⟩ | ⟨call, _, -, hplan, hfound⟩
  · cases he
  · -- a request that compiles has a predicate that fits, so the store can evaluate it
    obtain ⟨hfilter, -⟩ := (MovieService.plan_eq_ok_iff service params call).1 hplan
    obtain ⟨compiled, hcompiled⟩ := Predicate.exists_compile?_of_fits (fits_of_compile hfilter)
    rw [hstored] at hfound
    simp only [Repository.ofStore, Store.findPage?_eq hcompiled] at hfound
    cases hfound

/-- Whatever is accepted can be evaluated: each condition of an accepted filter fits the declared
type of its field, the filter compiles, and no list request over the store fails in the storage. -/
theorem accepted_evaluates :
    (∀ (schema : Schema) (filter : Option String) (p : Predicate),
      compile schema filter = .ok p →
      p.Fits schema ∧ ∃ compiled, p.compile? = some compiled) ∧
    ∀ (s : Store) (server : Server), server.service.repository = .ofStore s →
      (∀ params message, server.service.list params ≠ .error (.storage message)) ∧
      ∀ target, (server.listMovies target).status ≠ 500 := by
  constructor
  · intro schema filter p h
    have hfits := fits_of_compile h
    exact ⟨hfits, Predicate.exists_compile?_of_fits hfits⟩
  · intro s server hstored
    have hlist := list_ne_storage hstored
    refine ⟨hlist, fun target => ?_⟩
    unfold Server.listMovies
    split
    · next e _ => rw [e.status_toResponse]; decide
    · next params _ =>
      split
      · next e he =>
        rw [e.status_toResponse]
        rcases MovieService.list_error_cases he with ⟨cause, rfl, -⟩ | ⟨_, message, rfl, -⟩
        · cases cause <;> exact Nat.ne_of_beq_eq_false rfl
        · exact absurd he (hlist params message)
      · exact Nat.ne_of_beq_eq_false rfl

/-- A filter with two patterns, a date and a year. -/
def mixedText : String := "genres:|,released:1979-06-22,year:1986"

/-- What it compiles to. -/
def mixedPredicate : Predicate :=
  SortedMap.ofList [("genres", .allOf [.pattern ⟨"", true⟩, .pattern ⟨"", true⟩]),
    ("released", .single (.equals (.date (.ofSeconds 298857600)))),
    ("year", .single (.equals (.integer 1986)))]

/-- The filter over a store of three movies. -/
theorem accepted_evaluates_sample :
    compile Movie.schema (some mixedText) = .ok mixedPredicate ∧
    mixedPredicate.Fits Movie.schema ∧ (∃ compiled, mixedPredicate.compile? = some compiled) ∧
    (∀ params message, (MovieService.mk (.ofStore Store.sample) 20 100 []).list params ≠
      .error (.storage message)) ∧
    ∀ target, ((Server.mk ⟨.ofStore Store.sample, 20, 100, []⟩ "" {}).listMovies target).status ≠
      500 := by
  have hcompile : compile Movie.schema (some mixedText) = .ok mixedPredicate := rfl
  have hstored := accepted_evaluates.2 Store.sample
    (Server.mk ⟨.ofStore Store.sample, 20, 100, []⟩ "" {}) rfl
  obtain ⟨hfits, hcompiles⟩ := accepted_evaluates.1 Movie.schema (some mixedText) mixedPredicate
    hcompile
  exact ⟨hcompile, hfits, hcompiles, hstored.1, hstored.2⟩

end Filter

end Catalog
