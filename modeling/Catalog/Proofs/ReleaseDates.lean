import Catalog.Movie.Store
import Catalog.Proofs.DocumentOrder
import Catalog.Proofs.FilterMeaning
import Catalog.Proofs.MovieDocuments
import Catalog.Proofs.TimestampText

/-!
# Release dates in filters and sorts

The date of a filter is compared with the text that a release date is stored as, and so are two
release dates in a sort. The comparison is that of instants as long as the text is a timestamp,
which it is for years of four digits.

## Key results

- `Filter.instant?_eq_some_iff`: the texts that a filter takes as dates, and what they denote
- `Movie.hasReleased_iff`: the movies that are found by an instant
- `Movie.released_filter_sort`: filters and sorts by release date
- `Movie.exists_released_unmatched`: a release date that no filter finds
-/

namespace Catalog

open Time

/-! ## Texts of dates -/

namespace Instant

/-- A text of a date and the instant that it denotes: a timestamp, a local time or a date, the
latter two in universal time. -/
inductive Denotes : List Char → Instant → Prop where
  | timestamp {cs : List Char} {t : Instant} (h : Timestamp cs t) : Denotes cs t
  | localTime {cs : List Char} {t : Instant} (h : LocalText cs t) : Denotes cs t
  | date {cs : List Char} {d : CivilDate} (h : LooseDate cs d) (hvalid : d.isValid = true) :
      Denotes cs (ofDate d)

end Instant

/-- A text starts with one value and one rest only. -/
theorem Time.Reads.unique {α : Type} {read : List Char → ReadM (α × List Char)}
    {P : List Char → α → Prop} (h : Reads read P) {front front' rest rest' : List Char} {a a' : α}
    (ha : P front a) (hstop : StopsDigits rest) (ha' : P front' a') (hstop' : StopsDigits rest')
    (heq : front ++ rest = front' ++ rest') : a = a' ∧ rest = rest' := by
  have hread := h.complete front rest a ha hstop
  rw [heq, h.complete front' rest' a' ha' hstop'] at hread
  obtain ⟨rfl, rfl⟩ := Prod.mk.inj (Except.ok.inj hread)
  exact ⟨rfl, rfl⟩

theorem Time.NumberText.loose {ds : List Char} {n : Nat} (h : NumberText 2 2 ds n) :
    LooseNumber ds n :=
  ⟨[], ds, fun _ hc => absurd hc List.not_mem_nil,
    ⟨⟨h.1.digits, Nat.le_trans (by decide) h.1.least_le, h.1.le_most⟩, h.2⟩, rfl⟩

/-- Dates with all their digits are dates in the relaxed form. -/
theorem Time.StrictDate.loose {cs : List Char} {d : CivilDate} (h : StrictDate cs d) :
    LooseDate cs d := by
  cases h with
  | @mk year month day y m n hyear hmonth hday hm hn =>
    obtain ⟨hnumber, rfl⟩ := hyear
    have hlt := Numeral.ofDigits_lt hnumber.digits
    have hpow : 10 ^ year.length ≤ 10 ^ 4 := Nat.pow_le_pow_right (by decide) hnumber.le_most
    have hplain : IsNumber 1 4 year :=
      ⟨hnumber.digits, Nat.le_trans (by decide) hnumber.least_le, hnumber.le_most⟩
    refine .mk ⟨⟨[], year, fun _ hc => absurd hc List.not_mem_nil, .plain hplain, rfl⟩, ?_⟩
      hmonth.loose hday.loose hm hn
    omega

theorem Time.StrictClock.loose {cs : List Char} {c : Nat × Nat × Nat} (h : StrictClock cs c) :
    LooseClock cs c := by
  cases h with
  | mk hhour hminute hsecond hh hm hs => exact .mk hhour.loose hminute.loose hsecond.loose hh hm hs

namespace Instant

/-- A date that goes on is no date. -/
theorem not_looseDate_append {date rest : List Char} {c : Char} {d : CivilDate}
    (hdate : LooseDate date d) (hc : Text.isAsciiDigit c = false) (d' : CivilDate) :
    ¬ LooseDate (date ++ c :: rest) d' := by
  intro h
  have hrest := (reads_looseDate.unique hdate (stopsDigits_cons hc) h stopsDigits_nil
    (List.append_nil _).symm).2
  cases hrest

/-- A timestamp does not end behind its time of day. -/
theorem Timestamp.not_localText {cs : List Char} {t : Instant} (h : Timestamp cs t) (t' : Instant) :
    ¬ LocalText cs t' := by
  intro hlocal
  cases h with
  | @mk date clock fraction zone d hour minute second nanos sep offset hdate hvalid hsep hclock
      hfraction hzone =>
    have hstop : StopsDigits (sep :: (clock ++ (fraction ++ zone))) :=
      stopsDigits_cons (isAsciiDigit_separator hsep)
    generalize htext : date ++ sep :: (clock ++ (fraction ++ zone)) = cs at hlocal
    cases hlocal with
    | @mk date' clock' d' hour' minute' second' hdate' hvalid' hclock' =>
      -- both texts have the same date in front, and behind it the same time of day
      obtain ⟨-, hbehind⟩ := reads_looseDate.unique hdate.loose hstop hdate'
        (stopsDigits_cons (by decide)) htext
      have hclocks : clock ++ (fraction ++ zone) = clock' ++ [] := by
        rw [List.append_nil]
        exact (List.cons.inj hbehind).2
      obtain ⟨-, hnil⟩ := reads_looseClock.unique hclock.loose
        (hfraction.stopsDigits_append hzone) hclock' stopsDigits_nil hclocks
      cases hzone <;> cases (List.append_eq_nil_iff.1 hnil).2

theorem Timestamp.not_looseDate {cs : List Char} {t : Instant} (h : Timestamp cs t)
    (d : CivilDate) : ¬ LooseDate cs d := by
  cases h with
  | mk hdate hvalid hsep hclock hfraction hzone =>
    exact not_looseDate_append hdate.loose (isAsciiDigit_separator hsep) d

theorem LocalText.not_looseDate {cs : List Char} {t : Instant} (h : LocalText cs t)
    (d : CivilDate) : ¬ LooseDate cs d := by
  cases h with
  | mk hdate hvalid hclock => exact not_looseDate_append hdate (by decide) d

end Instant

/-! ## Texts that filters take as dates -/

namespace Filter

/-- A filter takes the texts of dates, each as the instant that it denotes. -/
theorem instant?_eq_some_iff {cs : List Char} {t : Instant} :
    instant? cs = some t ↔ Instant.Denotes cs t := by
  simp only [instant?, Option.orElse_eq_or, Option.or_eq_some_iff, Option.or_eq_none_iff,
    toOption_eq_some_iff, toOption_eq_none_iff, Instant.readTimestamp_eq_ok_iff,
    Instant.readLocalTime_eq_ok_iff, Instant.readDate_eq_ok_iff]
  constructor
  · rintro ((h | ⟨-, h⟩) | ⟨-, d, hdate, hvalid, rfl⟩)
    · exact .timestamp h
    · exact .localTime h
    · exact .date hdate hvalid
  · -- the readers that are tried first do not take a text of a later kind
    intro h
    cases h with
    | timestamp h => exact .inl (.inl h)
    | localTime h => exact .inl (.inr ⟨fun t' h' => h'.not_localText t h, h⟩)
    | @date d h hvalid =>
      exact .inr ⟨⟨fun t' h' => h'.not_looseDate d h, fun t' h' => h'.not_looseDate d h⟩,
        d, h, hvalid, rfl⟩

end Filter

/-! ## Release dates -/

namespace Instant

/-- The year has four digits, and a leap second ends its minute. -/
def IsPlain (t : Instant) : Prop :=
  t.HasFourDigitYear ∧ (1000000000 ≤ t.nanos → t.seconds % 60 = 59)

instance (t : Instant) : Decidable t.IsPlain :=
  inferInstanceAs (Decidable (_ ∧ _))

theorem IsPlain.asWritten_eq {t : Instant} (h : t.IsPlain) : t.asWritten = t :=
  asWritten_eq_self_iff.2 h.2

end Instant

namespace Movie

/-- The sort by release date. -/
def releasedKeys : SortSpec :=
  SortSpec.compile (some "released:asc") []

/-- The filter by release date with the text of a date. -/
def releasedFilter (raw : List Char) : String :=
  Filter.clauseText "released" raw

/-- The filter by release date is accepted and finds the movie. -/
def HasReleased (m : Movie) (raw : List Char) : Prop :=
  ∃ filter, Filter.CompilesTo schema (releasedFilter raw) filter ∧
    filter.holds m.document = true

theorem compile_releasedFilter {raw : List Char} (hraw : ',' ∉ raw) :
    Filter.compile schema (some (releasedFilter raw)) =
      (Filter.date "released" raw).map fun test =>
        SortedMap.ofList [("released", .single test)] := by
  have hget : schema.get? "released" = some (.scalar .date) := rfl
  rw [releasedFilter, Filter.compile_clauseText hget (by decide) (by decide) hraw]
  show ((Filter.date "released" raw).map Condition.single).map _ = _
  cases Filter.date "released" raw <;> rfl

/-- A filter by release date is accepted if its text is one of a date. -/
theorem exists_compile_releasedFilter_iff {raw : List Char} (hraw : ',' ∉ raw) :
    (∃ p, Filter.compile schema (some (releasedFilter raw)) = .ok p) ↔
      ∃ t, Instant.Denotes raw t := by
  simp only [compile_releasedFilter hraw, Filter.date, ← Filter.instant?_eq_some_iff]
  cases Filter.instant? raw <;> simp [Except.map]

theorem compilesTo_releasedFilter {raw : List Char} {t : Instant} (hraw : ',' ∉ raw)
    (h : Instant.Denotes raw t) :
    Filter.CompilesTo schema (releasedFilter raw)
      [("released", .single (.equals (.date t)))] := by
  refine ⟨SortedMap.ofList [("released", .single (.equals (.date t)))], ?_, rfl⟩
  rw [compile_releasedFilter hraw, Filter.date, Filter.instant?_eq_some_iff.2 h]
  rfl

/-- A movie is found by the instant that its release date is written as, if the text of that is a
timestamp. -/
theorem hasReleased_iff {m : Movie} {raw : List Char} {t : Instant} (hraw : ',' ∉ raw)
    (h : Instant.Denotes raw t) :
    m.HasReleased raw ↔ m.released.HasFourDigitYear ∧ t = m.released.asWritten := by
  have hcompiles := compilesTo_releasedFilter hraw h
  have hholds : CompiledFilter.holds [("released", .single (.equals (.date t)))] m.document = true ↔
      Instant.timestamp? m.released.render = some t := by
    simp [CompiledFilter.holds, lookup_released, CompiledCondition.holds, CompiledTest.holds,
      CompiledTest.holdsOfScalar]
  have hread : Instant.timestamp? m.released.render = some t ↔
      m.released.HasFourDigitYear ∧ t = m.released.asWritten := by
    rw [Instant.timestamp?_render]
    split
    · next hyear => simp [hyear, eq_comm]
    · next hyear => simp [hyear]
  rw [← hread, ← hholds]
  constructor
  · rintro ⟨filter, hfilter, hm⟩
    rwa [Filter.CompilesTo.unique hfilter hcompiles] at hm
  · exact fun hm => ⟨_, hcompiles, hm⟩

/-- Two movies are sorted by the instants that their release dates are written as, if both texts are
timestamps, and by the texts if not. -/
theorem compareDocuments_releasedKeys (m n : Movie) :
    releasedKeys.compareDocuments m.document n.document =
      if m.released.HasFourDigitYear ∧ n.released.HasFourDigitYear then
        m.released.asWritten.cmp n.released.asWritten
      else compare m.released.render n.released.render := by
  have hkeys : releasedKeys = [⟨"released", .asc⟩] := by decide
  have htexts : releasedKeys.compareDocuments m.document n.document =
      compareTexts m.released.render n.released.render := by
    rw [hkeys]
    simp only [SortSpec.compareDocuments, lookup_released, Json.compareOptional, Json.compare,
      Direction.apply, Ordering.then_eq]
  have hreadM := Instant.timestamp?_render m.released
  have hreadN := Instant.timestamp?_render n.released
  rw [htexts]
  by_cases hyearM : m.released.HasFourDigitYear
  · by_cases hyearN : n.released.HasFourDigitYear
    · rw [if_pos hyearM] at hreadM
      rw [if_pos hyearN] at hreadN
      rw [if_pos ⟨hyearM, hyearN⟩, compareTexts_of_some hreadM hreadN]
    · rw [if_neg hyearN] at hreadN
      rw [if_neg fun h => hyearN h.2, compareTexts_of_none_right hreadN]
  · rw [if_neg hyearM] at hreadM
    rw [if_neg fun h => hyearM h.1, compareTexts_of_none_left hreadM]

/-- Filters and sorts by release date compare the instants that the dates are written as, as long as
their years have four digits; for plain dates these are the dates themselves. -/
theorem released_filter_sort (m n : Movie) :
    (∀ raw : List Char, ',' ∉ raw →
      ((∃ p, Filter.compile schema (some (releasedFilter raw)) = .ok p) ↔
        ∃ t, Instant.Denotes raw t) ∧
      ∀ t, Instant.Denotes raw t →
        (m.HasReleased raw ↔ m.released.HasFourDigitYear ∧ t = m.released.asWritten) ∧
        (m.released.IsPlain → (m.HasReleased raw ↔ t = m.released))) ∧
    (releasedKeys.compareDocuments m.document n.document =
      if m.released.HasFourDigitYear ∧ n.released.HasFourDigitYear then
        m.released.asWritten.cmp n.released.asWritten
      else compare m.released.render n.released.render) ∧
    (m.released.IsPlain → n.released.IsPlain →
      releasedKeys.compareDocuments m.document n.document = m.released.cmp n.released) := by
  refine ⟨fun raw hraw => ⟨exists_compile_releasedFilter_iff hraw, fun t ht => ?filter⟩,
    compareDocuments_releasedKeys m n, fun hplain hplain' => ?sort⟩
  case filter =>
    have hfound := hasReleased_iff (m := m) hraw ht
    refine ⟨hfound, fun hplain => ?_⟩
    rw [hfound, hplain.asWritten_eq]
    exact and_iff_right hplain.1
  case sort =>
    rw [compareDocuments_releasedKeys m n, if_pos ⟨hplain.1, hplain'.1⟩, hplain.asWritten_eq,
      hplain'.asWritten_eq]

/-- A movie that was released at an instant. -/
def releasedAt (id : String) (t : Instant) : Movie :=
  { Store.sampleMovie id "Alien" 1979 with released := t }

/-- A movie of the last leap second is found by the text of that second an hour to the east, and
comes before a movie of the second after it. -/
theorem released_filter_sort_sample :
    let m := releasedAt "a" ⟨1483228799, 1000000000, by decide⟩
    let n := releasedAt "b" (.ofSeconds 1483228800)
    m.HasReleased "2017-01-01T00:59:60+01:00".toList ∧
    releasedKeys.compareDocuments m.document n.document = .lt := by
  intro m n
  have hdenotes : Instant.Denotes "2017-01-01T00:59:60+01:00".toList m.released :=
    Filter.instant?_eq_some_iff.1 (by decide)
  have hplain : m.released.IsPlain ∧ n.released.IsPlain := by decide
  obtain ⟨hfilter, -, hsort⟩ := released_filter_sort m n
  have hfound := ((hfilter _ (by decide)).2 _ hdenotes).2 hplain.1
  exact ⟨hfound.2 rfl, hsort hplain.1 hplain.2⟩

/-- A movie of the last second of the year 9999, an hour to the west, is one of the year 10000 in
universal time. The filter with this text does not find it, and it comes before a movie of 1979. -/
theorem exists_released_unmatched :
    let m := releasedAt "a" (.ofSeconds 253402304399)
    let n := releasedAt "b" (.ofSeconds 296438400)
    (∃ filter, Instant.Denotes "9999-12-31T23:59:59-01:00".toList m.released ∧
      Filter.CompilesTo schema (releasedFilter "9999-12-31T23:59:59-01:00".toList) filter ∧
      filter.holds m.document = false) ∧
    n.released.cmp m.released = .lt ∧
    releasedKeys.compareDocuments m.document n.document = .lt := by
  intro m n
  have hdenotes : Instant.Denotes "9999-12-31T23:59:59-01:00".toList m.released :=
    Filter.instant?_eq_some_iff.1 (by decide)
  refine ⟨⟨_, hdenotes, compilesTo_releasedFilter (by decide) hdenotes, ?_⟩, ?_, ?_⟩ <;> decide

end Movie

end Catalog
