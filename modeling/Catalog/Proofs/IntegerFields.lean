import Catalog.Proofs.Digits
import Catalog.Proofs.FilterMeaning
import Catalog.Proofs.IntegerRounding
import Catalog.Proofs.MovieDocuments
import Catalog.Proofs.Paging

/-!
# Integer fields in filters and sorts

Years and runtimes are integers of 64 bits, and a filter by one of them reads an integer of 64 bits.
What is compared are the doubles next to them, so integers that share a double are found by each
other's filter and are equal in a sort.

## Key results

- `Numeral.readInt64_eq_ok_iff`: the texts that are read as integers
- `IntegerField.get?_schema_iff`: the fields that are declared as integers
- `IntegerField.finds_iff`, `IntegerField.compareDocuments_keys`: filters and sorts by the doubles
- `IntegerField.filter_sort`: exactly when they go by the integers themselves
- `IntegerField.exists_shared_double`: integers that are mistaken for each other
-/

namespace Catalog

/-! ## Texts of integers -/

namespace Numeral

/-- Digits, at least one of them. -/
def IsDigits (ds : List Char) : Prop :=
  ds ≠ [] ∧ ∀ c ∈ ds, Text.isAsciiDigit c = true

/-- A text of an integer: digits with or without a sign in front. -/
inductive IntegerText : List Char → Int → Prop where
  | plain {ds : List Char} (h : IsDigits ds) : IntegerText ds (Nat.ofDigitChars 10 ds 0)
  | plus {ds : List Char} (h : IsDigits ds) : IntegerText ('+' :: ds) (Nat.ofDigitChars 10 ds 0)
  | minus {ds : List Char} (h : IsDigits ds) :
    IntegerText ('-' :: ds) (-(Nat.ofDigitChars 10 ds 0 : Int))

/-- An integer in decimal is a text of the integer. -/
theorem integerText_intText (n : Int) : IntegerText (intText n) n := by
  have hdigits : IsDigits (Nat.toDigits 10 n.natAbs) :=
    ⟨Nat.toDigits_ne_nil, fun c hc => isAsciiDigit_of_mem_toDigits hc⟩
  have hvalue := Nat.ofDigitChars_ten_toDigits (n := n.natAbs)
  unfold intText
  by_cases hneg : n < 0
  · have h := IntegerText.minus hdigits
    rw [hvalue, Int.ofNat_natAbs_of_nonpos hneg.le, neg_neg] at h
    rwa [if_pos hneg]
  · have h := IntegerText.plain hdigits
    rw [hvalue, Int.natAbs_of_nonneg (not_lt.1 hneg)] at h
    rwa [if_neg hneg]

/-- No text of an integer has a comma, which would end the clause of a filter. -/
theorem IntegerText.comma_not_mem {raw : List Char} {n : Int} (h : IntegerText raw n) :
    ',' ∉ raw := by
  have hdigits : ∀ {ds}, IsDigits ds → ',' ∉ ds := fun hds hc => absurd (hds.2 _ hc) (by decide)
  cases h with
  | plain h => exact hdigits h
  | plus h => simpa using hdigits h
  | minus h => simpa using hdigits h

/-- Digits within a bound, as an integer of 64 bits with a sign. -/
private theorem map_readDigits_iff {max : Nat} {above : NumeralError} {f : Int → Int}
    (hf : ∀ k : Nat, k ≤ max → -2 ^ 63 ≤ f k ∧ f k < 2 ^ 63)
    (hrange : ∀ k : Nat, -2 ^ 63 ≤ f k → f k < 2 ^ 63 → k ≤ max) {ds : List Char} {n : Int64} :
    ((readDigits max above 0 ds).map fun k => Int64.ofInt (f k)) = .ok n ↔
      (∀ c ∈ ds, Text.isAsciiDigit c = true) ∧ f (Nat.ofDigitChars 10 ds 0) = n.toInt := by
  have hof : ∀ k : Nat, k ≤ max → (Int64.ofInt (f k) = n ↔ f k = n.toInt) := by
    intro k hk
    obtain ⟨hlow, hhigh⟩ := hf k hk
    rw [← Int64.toInt_inj, Int64.toInt_ofInt_of_le hlow hhigh]
  constructor
  · intro h
    cases hread : readDigits max above 0 ds with
    | error e => rw [hread] at h; cases h
    | ok k =>
      rw [hread] at h
      obtain ⟨hdigits, rfl, hmax⟩ := (readDigits_eq_ok_iff (Nat.zero_le _)).1 hread
      exact ⟨hdigits, (hof _ hmax).1 (Except.ok.inj h)⟩
  · rintro ⟨hdigits, hvalue⟩
    have hmax := hrange _ (hvalue ▸ n.le_toInt) (hvalue ▸ n.toInt_lt)
    rw [readDigits_eq_ok above hdigits hmax]
    exact congrArg Except.ok ((hof _ hmax).2 hvalue)

/-- The texts of integers of 64 bits are read, each as its integer. -/
theorem readInt64_eq_ok_iff {raw : List Char} {n : Int64} :
    readInt64 raw = .ok n ↔ IntegerText raw n.toInt := by
  have hplain : ∀ ds, ((readDigits 0x7FFFFFFFFFFFFFFF .tooLarge 0 ds).map fun k =>
      Int64.ofInt k) = .ok n ↔ (∀ c ∈ ds, Text.isAsciiDigit c = true) ∧
        (Nat.ofDigitChars 10 ds 0 : Int) = n.toInt := fun ds =>
    map_readDigits_iff (f := fun k => k) (by omega) (by omega)
  have hminus : ∀ ds, ((readDigits 0x8000000000000000 .tooSmall 0 ds).map fun k =>
      Int64.ofInt (-k)) = .ok n ↔ (∀ c ∈ ds, Text.isAsciiDigit c = true) ∧
        -(Nat.ofDigitChars 10 ds 0 : Int) = n.toInt := fun ds =>
    map_readDigits_iff (f := fun k => -k) (by omega) (by omega)
  -- a sign is no digit
  have hsign : ∀ {c ds}, Text.isAsciiDigit c = false → ¬ IsDigits (c :: ds) := fun hc h => by
    rw [h.2 _ List.mem_cons_self] at hc
    cases hc
  generalize n.toInt = k at hplain hminus ⊢
  unfold readInt64
  split
  case h_1 => exact ⟨nofun, fun h => by cases h with | plain h => exact absurd rfl h.1⟩
  case h_2 => exact ⟨nofun, fun h => by
    cases h with
    | plain h => exact absurd h (hsign (by decide))
    | plus h => exact absurd rfl h.1⟩
  case h_3 => exact ⟨nofun, fun h => by
    cases h with
    | plain h => exact absurd h (hsign (by decide))
    | minus h => exact absurd rfl h.1⟩
  case h_4 ds hne =>
    rw [hminus]
    constructor
    · rintro ⟨hdigits, rfl⟩
      exact .minus ⟨fun h => hne h, hdigits⟩
    · intro h
      cases h with
      | plain h => exact absurd h (hsign (by decide))
      | minus h => exact ⟨h.2, rfl⟩
  case h_5 ds hne =>
    rw [hplain]
    constructor
    · rintro ⟨hdigits, rfl⟩
      exact .plus ⟨fun h => hne h, hdigits⟩
    · intro h
      cases h with
      | plain h => exact absurd h (hsign (by decide))
      | plus h => exact ⟨h.2, rfl⟩
  case h_6 hnil _ _ hneg hpos =>
    rw [hplain]
    constructor
    · rintro ⟨hdigits, rfl⟩
      exact .plain ⟨hnil, hdigits⟩
    · intro h
      cases h with
      | plain h => exact ⟨h.2, rfl⟩
      | plus h => exact absurd rfl (hpos _)
      | minus h => exact absurd rfl (hneg _)

end Numeral

/-! ## Integer fields -/

/-- The fields of movies that hold an integer. -/
inductive IntegerField where
  /-- The year a movie came out. -/
  | year
  /-- The minutes it runs. -/
  | runtime
deriving DecidableEq

namespace IntegerField

open Binary64 Numeral

/-- The name that queries use. -/
def name : IntegerField → String
  | year => "year"
  | runtime => "runtime"

/-- The integer of a movie. -/
def value : IntegerField → Movie → Int64
  | year => Movie.year
  | runtime => Movie.runtime

/-- The sort by the field. -/
def keys (f : IntegerField) : SortSpec :=
  SortSpec.compile (some (f.name ++ ":asc")) []

/-- The filter by the field with the text of an integer. -/
def filter (f : IntegerField) (raw : List Char) : String :=
  Filter.clauseText f.name raw

/-- The filter by the field is accepted and finds the movie. -/
def Finds (f : IntegerField) (raw : List Char) (m : Movie) : Prop :=
  ∃ filter, Filter.CompilesTo Movie.schema (f.filter raw) filter ∧ filter.holds m.document = true

/-- These are the fields that the schema declares as integers. -/
theorem get?_schema_iff {field : String} :
    Movie.schema.get? field = some (.scalar .integer) ↔ ∃ f : IntegerField, f.name = field := by
  constructor
  · intro h
    rw [Movie.schema, SortedMap.get?_ofList] at h
    obtain ⟨before, after, hentries, -⟩ := List.lookup_eq_some_iff.1 h
    -- the entries of the schema that declare an integer
    have hmem := hentries ▸ List.mem_append_right before List.mem_cons_self
    rcases (show field = "year" ∨ field = "runtime" by simpa [or_comm] using hmem) with rfl | rfl
    · exact ⟨year, rfl⟩
    · exact ⟨runtime, rfl⟩
  · rintro ⟨f, rfl⟩
    cases f <;> rfl

theorem lookup_document (f : IntegerField) (m : Movie) :
    m.document.lookup f.name = some (.number (.int (f.value m).toInt)) := by
  rw [Movie.lookup_document]
  cases f <;> rfl

/-! ## Filters -/

theorem compile_filter (f : IntegerField) {raw : List Char} (hraw : ',' ∉ raw) :
    Filter.compile Movie.schema (some (f.filter raw)) = (Filter.integer f.name raw).map fun test =>
      SortedMap.ofList [(f.name, .single test)] := by
  have hname : ':' ∉ f.name.toList ∧ ',' ∉ f.name.toList := by cases f <;> decide
  rw [filter, Filter.compile_clauseText (get?_schema_iff.2 ⟨f, rfl⟩) hname.1 hname.2 hraw]
  show ((Filter.integer f.name raw).map Condition.single).map _ = _
  cases Filter.integer f.name raw <;> rfl

/-- The texts of integers of 64 bits are accepted, and no others. -/
theorem exists_compile_filter_iff (f : IntegerField) {raw : List Char} (hraw : ',' ∉ raw) :
    (∃ p, Filter.compile Movie.schema (some (f.filter raw)) = .ok p) ↔
      ∃ n : Int64, IntegerText raw n.toInt := by
  simp only [f.compile_filter hraw, Filter.integer, ← readInt64_eq_ok_iff]
  cases readInt64 raw <;> simp [Except.map]

theorem compilesTo_filter (f : IntegerField) {raw : List Char} {n : Int64}
    (h : IntegerText raw n.toInt) :
    Filter.CompilesTo Movie.schema (f.filter raw)
      [(f.name, .single (.equals (.integer n)))] := by
  refine ⟨SortedMap.ofList [(f.name, .single (.equals (.integer n)))], ?_, by cases f <;> rfl⟩
  rw [f.compile_filter h.comma_not_mem, Filter.integer, readInt64_eq_ok_iff.2 h]
  rfl

/-- A filter finds the movies whose integer has the double of the one that is looked for. -/
theorem finds_iff (f : IntegerField) (m : Movie) {raw : List Char} {n : Int64}
    (h : IntegerText raw n.toInt) :
    f.Finds raw m ↔ ofInt n.toInt = ofInt (f.value m).toInt := by
  have hcompiles := f.compilesTo_filter h
  have hholds : CompiledFilter.holds [(f.name, .single (.equals (.integer n)))] m.document =
      (ofInt n.toInt).sameNumber (ofInt (f.value m).toInt) := by
    simp [CompiledFilter.holds, f.lookup_document, CompiledCondition.holds, CompiledTest.holds,
      CompiledTest.holdsOfScalar, Literal.number?, Json.binary64?, JsonNumber.toBinary64]
  rw [← sameNumber_ofInt, ← hholds]
  -- the text is compiled to this filter and to no other
  constructor
  · rintro ⟨filter, hfilter, hm⟩
    rwa [Filter.CompilesTo.unique hfilter hcompiles] at hm
  · exact fun hm => ⟨_, hcompiles, hm⟩

/-! ## Sorts -/

/-- Movies are sorted by the doubles of their integers. -/
theorem compareDocuments_keys (f : IntegerField) (m m' : Movie) :
    f.keys.compareDocuments m.document m'.document =
      (ofInt (f.value m).toInt).compareTotal (ofInt (f.value m').toInt) := by
  have hkeys : f.keys = [⟨f.name, .asc⟩] := by cases f <;> decide
  rw [hkeys]
  simp only [SortSpec.compareDocuments, f.lookup_document, Json.compareOptional, Json.compare,
    JsonNumber.toBinary64, Direction.apply, Ordering.then_eq]

/-! ## Exact values -/

/-- Filters and sorts by an integer field go by the integers, except for integers that share a
double: a filter finds the integers that share the double of its own, and in a sort they are equal.
Up to 2 ^ 53 on either side of zero there are none. -/
theorem filter_sort (f : IntegerField) (m m' : Movie) :
    (∀ raw : List Char, ',' ∉ raw →
      ((∃ p, Filter.compile Movie.schema (some (f.filter raw)) = .ok p) ↔
        ∃ n : Int64, IntegerText raw n.toInt)) ∧
    (∀ n : Int64, IntegerText (intText n.toInt) n.toInt) ∧
    (∀ (raw : List Char) (n : Int64), IntegerText raw n.toInt →
      (f.Finds raw m ↔ ofInt n.toInt = ofInt (f.value m).toInt) ∧
      ((f.Finds raw m ↔ n = f.value m) ↔ Separate n.toInt (f.value m).toInt)) ∧
    (f.keys.compareDocuments m.document m'.document =
      if ofInt (f.value m).toInt = ofInt (f.value m').toInt then .eq
      else compare (f.value m).toInt (f.value m').toInt) ∧
    (f.keys.compareDocuments m.document m'.document =
        compare (f.value m).toInt (f.value m').toInt ↔
      Separate (f.value m).toInt (f.value m').toInt) ∧
    (∀ x y : Int, x.natAbs ≤ 2 ^ 53 → y.natAbs ≤ 2 ^ 53 → Separate x y) := by
  refine ⟨fun raw hraw => f.exists_compile_filter_iff hraw, fun n => integerText_intText n.toInt,
    fun raw n h => ⟨f.finds_iff m h, ?exactFilter⟩, ?sort, ?exactSort,
    fun x y => separate_of_natAbs_le⟩
  case exactFilter => rw [f.finds_iff m h, separate_iff, Int64.toInt_inj]
  case sort => rw [f.compareDocuments_keys, compareTotal_ofInt]
  case exactSort =>
    rw [f.compareDocuments_keys, compareTotal_ofInt, Separate]
    split
    · next heq => rw [eq_comm, compare_eq_iff_eq, imp_iff_right heq]
    · next hne => exact iff_of_true rfl fun heq => absurd heq hne

/-- A movie of 1979 is found by its year, written with a sign and a zero in front, and comes before
one of 1986. -/
theorem filter_sort_sample :
    let m := Store.sampleMovie "a" "Alien" 1979
    let m' := Store.sampleMovie "b" "Aliens" 1986
    ',' ∉ "+01979".toList ∧ IntegerText "+01979".toList (1979 : Int64).toInt ∧
    (year.value m).toInt.natAbs ≤ 2 ^ 53 ∧ (year.value m').toInt.natAbs ≤ 2 ^ 53 ∧
    (∃ p, Filter.compile Movie.schema (some (year.filter "+01979".toList)) = .ok p) ∧
    year.Finds "+01979".toList m ∧
    year.keys.compareDocuments m.document m'.document = .lt := by
  intro m m'
  have hraw : ',' ∉ "+01979".toList := by decide
  have htext : IntegerText "+01979".toList (1979 : Int64).toInt :=
    readInt64_eq_ok_iff.1 (by decide)
  have hn : (1979 : Int64).toInt.natAbs ≤ 2 ^ 53 := by decide
  have hm : (year.value m).toInt.natAbs ≤ 2 ^ 53 := by decide
  have hm' : (year.value m').toInt.natAbs ≤ 2 ^ 53 := by decide
  obtain ⟨haccepted, -, hfilter, -, hsort, hseparate⟩ := filter_sort year m m'
  have hfound := (hfilter _ _ htext).2.2 (hseparate _ _ hn hm)
  have hless : compare (year.value m).toInt (year.value m').toInt = .lt := by decide
  exact ⟨hraw, htext, hm, hm', (haccepted _ hraw).2 ⟨1979, htext⟩, hfound.2 rfl,
    (hsort.2 (hseparate _ _ hm hm')).trans hless⟩

/-- The least integer above zero without a double of its own: the filter for it finds a movie of the
integer below, and in a sort the two are equal. -/
theorem exists_shared_double :
    let m := Store.sampleMovie "a" "Alien" 9007199254740993
    let m' := Store.sampleMovie "b" "Alien" 9007199254740992
    (∃ filter, IntegerText "9007199254740993".toList (9007199254740993 : Int64).toInt ∧
      Filter.CompilesTo Movie.schema (year.filter "9007199254740993".toList) filter ∧
      filter.holds m'.document = true) ∧
    (9007199254740993 : Int64) ≠ year.value m' ∧
    compare (year.value m).toInt (year.value m').toInt = .gt ∧
    year.keys.compareDocuments m.document m'.document = .eq := by
  intro m m'
  have htext : IntegerText "9007199254740993".toList (9007199254740993 : Int64).toInt :=
    readInt64_eq_ok_iff.1 (by decide)
  refine ⟨⟨_, htext, year.compilesTo_filter htext, ?_⟩, ?_, ?_, ?_⟩ <;> decide

end IntegerField

end Catalog
