import Catalog.Proofs.Digits
import Catalog.Proofs.Pieces
import Catalog.Proofs.Traversal
import Catalog.Time.Reader
import Mathlib.Algebra.Group.Nat.Defs
import Mathlib.Data.List.Basic

/-!
# The grammar of dates and times

What the texts of dates and times are made of, and which instants they denote: timestamps with an
offset, local times and dates, the latter two in universal time. The readers accept just these
texts.

## Key results

- `Instant.readTimestamp_eq_ok_iff`: texts of timestamps
- `Instant.readLocalTime_eq_ok_iff`, `Instant.readDate_eq_ok_iff`: texts without an offset
-/

namespace Catalog

theorem toOption_eq_some_iff {ε α : Type} {x : Except ε α} {a : α} :
    x.toOption = some a ↔ x = .ok a := by
  cases x <;> simp [Except.toOption]

theorem toOption_eq_none_iff {ε α : Type} {x : Except ε α} :
    x.toOption = none ↔ ∀ a, ¬ x = .ok a := by
  cases x <;> simp [Except.toOption]

/-! ## Numbers -/

namespace Numeral

/-- A number has no more digits than it is written with. -/
theorem ofDigits_lt {ds : List Char} (hdigits : ∀ c ∈ ds, Text.isAsciiDigit c = true) :
    ofDigits ds < 10 ^ ds.length := by
  have hbound : ∀ acc, Nat.ofDigitChars 10 ds acc < (acc + 1) * 10 ^ ds.length := by
    induction ds with
    | nil =>
      intro acc
      rw [Nat.ofDigitChars_nil]
      simp
    | cons c cs ih =>
      intro acc
      obtain ⟨hc, hcs⟩ := List.forall_mem_cons.1 hdigits
      obtain ⟨hlow, hhigh⟩ := (Text.isAsciiDigit_iff c).1 hc
      have hzero : '0'.toNat = 48 := rfl
      have hnext := ih hcs (10 * acc + (c.toNat - '0'.toNat))
      have hle : 10 * acc + (c.toNat - '0'.toNat) + 1 ≤ (acc + 1) * 10 := by omega
      rw [Nat.ofDigitChars_cons, List.length_cons, Nat.pow_succ', ← Nat.mul_assoc]
      exact Nat.lt_of_lt_of_le hnext (Nat.mul_le_mul_right _ hle)
  have hzero := hbound 0
  rwa [← ofDigits_eq hdigits, Nat.zero_add, Nat.one_mul] at hzero

end Numeral

namespace Time

open Numeral

/-- A run of digits of a length within bounds. -/
structure IsNumber (least most : Nat) (ds : List Char) : Prop where
  digits : ∀ c ∈ ds, Text.isAsciiDigit c = true
  least_le : least ≤ ds.length
  le_most : ds.length ≤ most

/-- The text does not go on with a digit. -/
def StopsDigits (rest : List Char) : Prop :=
  ∀ c ∈ rest.head?, Text.isAsciiDigit c = false

/-- Of a text, at most `most` digits are taken; fewer only if something else follows them. -/
private theorem takeDigits_spec (most : Nat) (cs : List Char) :
    ∃ rest, cs = (cs.take most).takeWhile Text.isAsciiDigit ++ rest ∧
      (((cs.take most).takeWhile Text.isAsciiDigit).length = most ∨ StopsDigits rest) := by
  induction cs generalizing most with
  | nil => exact ⟨[], by rw [List.take_nil]; rfl, .inr fun c hc => nomatch hc⟩
  | cons c cs ih =>
    cases most with
    | zero => exact ⟨c :: cs, rfl, .inl rfl⟩
    | succ most =>
      rw [List.take_succ_cons, List.takeWhile_cons]
      split
      · obtain ⟨rest, hcs, hstop⟩ := ih most
        refine ⟨rest, by rw [List.cons_append, ← hcs], hstop.imp_left fun h => ?_⟩
        rw [List.length_cons, h]
      · next hc =>
        refine ⟨c :: cs, rfl, .inr fun d hd => ?_⟩
        cases hd
        exact Bool.not_eq_true _ ▸ hc

private theorem takeDigits_append {most : Nat} {ds rest : List Char} (hdigits :
    ∀ c ∈ ds, Text.isAsciiDigit c = true) (hmost : ds.length ≤ most)
    (hstop : ds.length = most ∨ StopsDigits rest) :
    ((ds ++ rest).take most).takeWhile Text.isAsciiDigit = ds := by
  rw [List.take_append, List.take_of_length_le hmost]
  refine Text.takeWhile_append_stop hdigits fun c hc => ?_
  rcases hstop with rfl | hstop
  · rw [Nat.sub_self] at hc
    cases hc
  · rw [List.head?_take] at hc
    split at hc
    · cases hc
    · exact hstop c hc

/-- A number is read up to its greatest length or to the first character that is no digit. -/
theorem number_eq_ok_iff {least most n : Nat} {cs rest : List Char} :
    number least most cs = .ok (n, rest) ↔ ∃ ds, IsNumber least most ds ∧ cs = ds ++ rest ∧
      (ds.length = most ∨ StopsDigits rest) ∧ n = ofDigits ds ∧ n < 2 ^ 63 := by
  obtain ⟨rest', hcs, hstop⟩ := takeDigits_spec most cs
  have hdigits : ∀ c ∈ (cs.take most).takeWhile Text.isAsciiDigit, Text.isAsciiDigit c = true :=
    List.all_eq_true.1 (List.all_takeWhile)
  have hmost : ((cs.take most).takeWhile Text.isAsciiDigit).length ≤ most :=
    Nat.le_trans (List.takeWhile_prefix _).length_le (List.length_take_le most cs)
  constructor
  · intro h
    simp only [number] at h
    generalize (cs.take most).takeWhile Text.isAsciiDigit = ds at *
    split at h
    · cases h
    split at h
    · cases h
    split at h
    · cases h
    next hleast hmax =>
    obtain ⟨rfl, rfl⟩ := Prod.mk.inj (Except.ok.inj h)
    refine ⟨ds, ⟨hdigits, by omega, hmost⟩, ?_, ?_, rfl, by omega⟩
    · rw [hcs, List.drop_left]
    · rwa [hcs, List.drop_left]
  · rintro ⟨ds, hnumber, rfl, hstop, rfl, hmax⟩
    have hleast := hnumber.least_le
    have htake := takeDigits_append hnumber.digits hnumber.le_most hstop
    simp only [number, htake, List.length_append, List.drop_left]
    rw [if_neg (by omega), if_neg (by omega), if_neg (by omega)]

/-! ## Small readers -/

theorem char_eq_ok_iff {c : Char} {u : Unit} {cs rest : List Char} :
    char c cs = .ok (u, rest) ↔ cs = c :: rest := by
  cases cs with
  | nil => simp [char]
  | cons d cs =>
    by_cases h : d = c
    · simp [char, h]
    · simp [char, h]

theorem within_eq_ok_iff {low high n : Nat} {u : Unit} :
    within low high n = .ok u ↔ low ≤ n ∧ n ≤ high := by
  unfold within
  split <;> simp_all

theorem isAsciiDigit_separator {c : Char} (h : c = 'T' ∨ c = 't' ∨ c = ' ') :
    Text.isAsciiDigit c = false := by
  rcases h with rfl | rfl | rfl <;> decide

theorem separator_eq_ok_iff {u : Unit} {cs rest : List Char} :
    separator cs = .ok (u, rest) ↔ ∃ c, (c = 'T' ∨ c = 't' ∨ c = ' ') ∧ cs = c :: rest := by
  cases cs with
  | nil => simp [separator]
  | cons d cs =>
    rw [separator]
    constructor
    · intro h
      split at h
      · next hd =>
        cases h
        exact ⟨d, hd, rfl⟩
      · cases h
    · rintro ⟨c, hc, h⟩
      cases h
      rw [if_pos hc]

theorem finish_eq_ok_iff {u : Unit} {cs : List Char} : finish cs = .ok u ↔ cs = [] := by
  cases cs <;> simp [finish]

theorem existing_eq_ok_iff {d d' : CivilDate} :
    existing d = .ok d' ↔ d.isValid = true ∧ d = d' := by
  unfold existing
  split <;> simp_all

/-! ## Fractions -/

/-- A fraction of a second and its nanoseconds; digits from the tenth on count nothing. -/
inductive Fraction : List Char → Nat → Prop where
  | none : Fraction [] 0
  | some {ds : List Char} (hne : ds ≠ []) (hdigits : ∀ c ∈ ds, Text.isAsciiDigit c = true) :
      Fraction ('.' :: ds) (ofDigits (ds.take 9) * 10 ^ (9 - (ds.take 9).length))

/-- Nine digits do not reach a whole second. -/
theorem Fraction.lt {cs : List Char} {nanos : Nat} (h : Fraction cs nanos) : nanos < 1000000000 := by
  cases h with
  | none => decide
  | @some ds hne hdigits =>
    have hlt := ofDigits_lt fun c hc => hdigits c (List.mem_of_mem_take (i := 9) hc)
    have hlength : (ds.take 9).length + (9 - (ds.take 9).length) = 9 :=
      Nat.add_sub_of_le (List.length_take_le 9 ds)
    have hpow := Nat.mul_lt_mul_of_pos_right hlt (Nat.pow_pos (n := 9 - (ds.take 9).length)
      (show 0 < 10 by decide))
    rwa [← Nat.pow_add, hlength] at hpow

theorem nanoseconds_eq_ok_iff {n : Nat} {nanos : Fin 1000000000} :
    nanoseconds n = .ok nanos ↔ n = nanos := by
  unfold nanoseconds
  split
  · rw [Except.ok.injEq, Fin.ext_iff]
  · next h =>
    have := nanos.isLt
    exact ⟨nofun, fun heq => absurd (heq ▸ this) h⟩

/-- The digits of a fraction, though at most nine are read as a number. -/
theorem exists_of_fraction {n : Fin 1000000000} {cs rest : List Char}
    (h : fraction cs = .ok (n, rest)) :
    ∃ ds, ds ≠ [] ∧ (∀ c ∈ ds, Text.isAsciiDigit c = true) ∧ cs = ds ++ rest ∧
      n = ofDigits (ds.take 9) * 10 ^ (9 - (ds.take 9).length) := by
  obtain ⟨⟨m, behind⟩, hnumber, h⟩ := exists_of_bind_eq_ok h
  obtain ⟨nanos, hnanos, hpair⟩ := exists_of_bind_eq_ok h
  obtain ⟨ds, hds, rfl, hstop, rfl, -⟩ := number_eq_ok_iff.1 hnumber
  cases hpair
  have hdigits : ∀ c ∈ ds ++ behind.takeWhile Text.isAsciiDigit, Text.isAsciiDigit c = true :=
    List.forall_mem_append.2 ⟨hds.digits, List.all_eq_true.1 List.all_takeWhile⟩
  -- digits are skipped only if nine were read
  have htake : (ds ++ behind.takeWhile Text.isAsciiDigit).take 9 = ds := by
    rcases hstop with h | hstop
    · rw [← h, List.take_left]
    · have hnone : behind.takeWhile Text.isAsciiDigit = [] := by
        cases behind with
        | nil => rfl
        | cons c cs => rw [List.takeWhile_cons, hstop c rfl]; rfl
      rw [hnone, List.append_nil, List.take_of_length_le hds.le_most]
  have hne : ds ++ behind.takeWhile Text.isAsciiDigit ≠ [] := by
    intro h
    have hleast := hds.least_le
    rw [(List.append_eq_nil_iff.1 h).1] at hleast
    cases hleast
  refine ⟨_, hne, hdigits, ?_, ?_⟩
  · rw [List.append_assoc, List.takeWhile_append_dropWhile]
  · rw [← nanoseconds_eq_ok_iff.1 hnanos, htake, List.length_append, Nat.add_sub_cancel]
    rfl

/-- The first nine digits of a run, as they are read. -/
private theorem number_take_append {ds rest : List Char} (hne : ds ≠ [])
    (hdigits : ∀ c ∈ ds, Text.isAsciiDigit c = true) (hstop : StopsDigits rest) :
    number 1 9 (ds ++ rest) = .ok (ofDigits (ds.take 9), ds.drop 9 ++ rest) := by
  have hpos := List.length_pos_iff.2 hne
  have htaken : ∀ c ∈ ds.take 9, Text.isAsciiDigit c = true :=
    fun c hc => hdigits c (List.mem_of_mem_take hc)
  refine number_eq_ok_iff.2
    ⟨ds.take 9, ⟨htaken, ?_, List.length_take_le 9 ds⟩, ?_, ?_, rfl, ?_⟩
  · rw [List.length_take]
    omega
  · rw [← List.append_assoc, List.take_append_drop]
  · rw [List.length_take]
    by_cases h : ds.length < 9
    · right
      rwa [List.drop_of_length_le (by omega), List.nil_append]
    · left
      omega
  · have hlt := ofDigits_lt htaken
    have hpow : 10 ^ (ds.take 9).length ≤ 10 ^ 9 :=
      Nat.pow_le_pow_right (by decide) (List.length_take_le 9 ds)
    omega

theorem fraction_append {ds rest : List Char} (hne : ds ≠ [])
    (hdigits : ∀ c ∈ ds, Text.isAsciiDigit c = true) (hstop : StopsDigits rest) :
    fraction (ds ++ rest) = .ok (⟨_, (Fraction.some hne hdigits).lt⟩, rest) := by
  have hlength : (ds ++ rest).length - (ds.drop 9 ++ rest).length = (ds.take 9).length := by
    rw [List.length_append, List.length_append, List.length_drop, List.length_take]
    omega
  have hskip : (ds.drop 9 ++ rest).dropWhile Text.isAsciiDigit = rest :=
    Text.dropWhile_append_stop (fun c hc => hdigits c (List.mem_of_mem_drop hc)) hstop
  rw [fraction, number_take_append hne hdigits hstop]
  show (nanoseconds (_ * Nat.pow 10 (9 - ((ds ++ rest).length - (ds.drop 9 ++ rest).length))) >>=
    fun nanos => pure (nanos, (ds.drop 9 ++ rest).dropWhile Text.isAsciiDigit)) = _
  have hnanos : nanoseconds (ofDigits (ds.take 9) * 10 ^ (9 - (ds.take 9).length)) =
      .ok ⟨_, (Fraction.some hne hdigits).lt⟩ := nanoseconds_eq_ok_iff.2 rfl
  rw [hlength, hskip]
  exact congrArg (fun read => read >>= fun nanos => pure (nanos, rest)) hnanos

theorem optionalFraction_append {front rest : List Char} {nanos : Nat} (h : Fraction front nanos)
    (hstop : StopsDigits rest) (hpoint : rest.head? ≠ some '.') :
    optionalFraction (front ++ rest) = .ok (⟨nanos, h.lt⟩, rest) := by
  cases h with
  | none =>
    rw [List.nil_append]
    unfold optionalFraction
    split
    · exact absurd rfl hpoint
    · rfl
  | some hne hdigits => exact fraction_append hne hdigits hstop

theorem exists_fraction {cs rest : List Char} {nanos : Fin 1000000000}
    (h : optionalFraction cs = .ok (nanos, rest)) :
    ∃ front, cs = front ++ rest ∧ Fraction front nanos := by
  unfold optionalFraction at h
  split at h
  · obtain ⟨ds, hne, hdigits, rfl, hnanos⟩ := exists_of_fraction h
    exact ⟨'.' :: ds, rfl, hnanos ▸ .some hne hdigits⟩
  · cases h
    exact ⟨[], rfl, .none⟩

/-! ## Offsets -/

theorem isNumber_two {x y : Char} (hx : Text.isAsciiDigit x = true)
    (hy : Text.isAsciiDigit y = true) :
    IsNumber 2 2 [x, y] ∧ ofDigits [x, y] = (x.toNat - 48) * 10 + (y.toNat - 48) := by
  refine ⟨⟨?_, Nat.le_refl 2, Nat.le_refl 2⟩, ?_⟩
  · simp [hx, hy]
  · simp [ofDigits, Text.digitValue?_eq hx, Text.digitValue?_eq hy]

theorem isAsciiDigit_of_digitValue? {c : Char} {d : Nat} (h : Text.digitValue? c = some d) :
    Text.isAsciiDigit c = true ∧ d = c.toNat - 48 ∧ d < 10 := by
  unfold Text.digitValue? at h
  split at h
  · next hc =>
    cases h
    have hdigit : Text.isAsciiDigit c = true := by simpa [Text.isAsciiDigit] using hc
    have hrange := (Text.isAsciiDigit_iff c).1 hdigit
    exact ⟨hdigit, rfl, by omega⟩
  · cases h

/-- Two digits make a number. -/
theorem twoDigits_eq_ok_iff {a b : Nat} {cs rest : List Char} :
    twoDigits cs = .ok ((a, b), rest) ↔ ∃ ds, IsNumber 2 2 ds ∧ cs = ds ++ rest ∧
      a = ofDigits ds / 10 ∧ b = ofDigits ds % 10 := by
  constructor
  · intro h
    unfold twoDigits at h
    split at h
    · next x y rest' =>
      split at h
      · next a' b' hx hy =>
        cases h
        obtain ⟨hxdigit, rfl, hxlt⟩ := isAsciiDigit_of_digitValue? hx
        obtain ⟨hydigit, rfl, hylt⟩ := isAsciiDigit_of_digitValue? hy
        obtain ⟨hnumber, hvalue⟩ := isNumber_two hxdigit hydigit
        exact ⟨[x, y], hnumber, rfl, by omega, by omega⟩
      · cases h
    · split at h <;> cases h
    · cases h
  · rintro ⟨ds, hnumber, rfl, rfl, rfl⟩
    have hlength : ds.length = 2 := Nat.le_antisymm hnumber.le_most hnumber.least_le
    obtain ⟨x, y, rfl⟩ := List.length_eq_two.1 hlength
    have hx := hnumber.digits x (by simp)
    have hy := hnumber.digits y (by simp)
    have hvalue := (isNumber_two hx hy).2
    have hxlt := (Text.isAsciiDigit_iff x).1 hx
    have hylt := (Text.isAsciiDigit_iff y).1 hy
    show twoDigits (x :: y :: rest) = _
    simp only [twoDigits, Text.digitValue?_eq hx, Text.digitValue?_eq hy, hvalue]
    congr 3 <;> omega

/-- Hours and minutes in seconds. -/
def zoneSeconds (hour minute : List Char) : Int :=
  (ofDigits hour * 3600 + ofDigits minute * 60 : Nat)

/-- An offset from universal time in seconds, below a day. -/
inductive Zone : List Char → Int → Prop where
  | utc {c : Char} (hc : c = 'Z' ∨ c = 'z') : Zone [c] 0
  | ahead {hour minute : List Char} (hhour : IsNumber 2 2 hour) (hminute : IsNumber 2 2 minute)
      (hrange : ofDigits hour < 24 ∧ ofDigits minute < 60) :
      Zone ('+' :: (hour ++ ':' :: minute)) (zoneSeconds hour minute)
  | behind {sign : Char} {hour minute : List Char} (hsign : sign = '-' ∨ sign = '\u2212')
      (hhour : IsNumber 2 2 hour) (hminute : IsNumber 2 2 minute)
      (hrange : ofDigits hour < 24 ∧ ofDigits minute < 60) :
      Zone (sign :: (hour ++ ':' :: minute)) (-zoneSeconds hour minute)

theorem skipColon_eq_ok_iff {cs rest : List Char} :
    (char ':' cs).map (·.2) = .ok rest ↔ cs = ':' :: rest := by
  rw [← char_eq_ok_iff (u := ())]
  cases char ':' cs with
  | error e => simp [Except.map]
  | ok read =>
    obtain ⟨u, behind⟩ := read
    simp [Except.map]

theorem signedOffset_eq_ok_iff {negative : Bool} {cs rest : List Char} {seconds : Int} :
    signedOffset (fun cs => (char ':' cs).map (·.2)) negative cs = .ok (seconds, rest) ↔
      ∃ hour minute, IsNumber 2 2 hour ∧ IsNumber 2 2 minute ∧ ofDigits minute < 60 ∧
        cs = hour ++ ':' :: (minute ++ rest) ∧
        seconds = if negative then -zoneSeconds hour minute else zoneSeconds hour minute := by
  have htens : ∀ n : Nat, n / 10 * 10 + n % 10 = n := by omega
  constructor
  · intro h
    obtain ⟨⟨⟨a, b⟩, behindHour⟩, hhour, h₁⟩ := exists_of_bind_eq_ok h
    obtain ⟨behindColon, hskip, h₂⟩ := exists_of_bind_eq_ok h₁
    obtain ⟨⟨⟨c, d⟩, behindMinute⟩, hminute, h₃⟩ := exists_of_bind_eq_ok h₂
    obtain ⟨hour, hour2, rfl, rfl, rfl⟩ := twoDigits_eq_ok_iff.1 hhour
    obtain ⟨minute, minute2, rfl, rfl, rfl⟩ := twoDigits_eq_ok_iff.1 hminute
    obtain rfl := skipColon_eq_ok_iff.1 hskip
    simp only [htens] at h₃
    split at h₃
    · cases h₃
    · next hrange =>
      cases h₃
      exact ⟨hour, minute, hour2, minute2, by omega, rfl, rfl⟩
  · rintro ⟨hour, minute, hour2, minute2, hrange, rfl, rfl⟩
    have hhour : twoDigits (hour ++ ':' :: (minute ++ rest)) = .ok (_, ':' :: (minute ++ rest)) :=
      twoDigits_eq_ok_iff.2 ⟨hour, hour2, rfl, rfl, rfl⟩
    have hminute : twoDigits (minute ++ rest) = .ok (_, rest) :=
      twoDigits_eq_ok_iff.2 ⟨minute, minute2, rfl, rfl, rfl⟩
    have hskip := skipColon_eq_ok_iff.2 (rfl : ':' :: (minute ++ rest) = _)
    have htop : ¬ 6 ≤ ofDigits minute / 10 := by omega
    simp only [signedOffset, hhour, hskip, hminute, htens, bind, Except.bind, if_neg htop]
    rfl

theorem offset_append {front : List Char} {seconds : Int} (h : Zone front seconds)
    (rest : List Char) :
    offset (fun cs => (char ':' cs).map (·.2)) (front ++ rest) = .ok (seconds, rest) := by
  cases h with
  | utc hc => rcases hc with rfl | rfl <;> rfl
  | @ahead hour minute hhour hminute hrange =>
    have hsigned : signedOffset (fun cs => (char ':' cs).map (·.2)) false
        (hour ++ ':' :: minute ++ rest) = .ok (zoneSeconds hour minute, rest) :=
      signedOffset_eq_ok_iff.2 ⟨hour, minute, hhour, hminute, hrange.2, by simp, rfl⟩
    exact hsigned
  | @behind sign hour minute hsign hhour hminute hrange =>
    have hsigned : signedOffset (fun cs => (char ':' cs).map (·.2)) true
        (hour ++ ':' :: minute ++ rest) = .ok (-zoneSeconds hour minute, rest) :=
      signedOffset_eq_ok_iff.2 ⟨hour, minute, hhour, hminute, hrange.2, by simp, rfl⟩
    rcases hsign with rfl | rfl
    · exact hsigned
    · exact hsigned

theorem Zone.natAbs_lt {front : List Char} {seconds : Int} (h : Zone front seconds) :
    seconds.natAbs < 86400 := by
  cases h with
  | utc hc => decide
  | ahead hhour hminute hrange => unfold zoneSeconds; omega
  | behind hsign hhour hminute hrange => unfold zoneSeconds; omega

theorem exists_zone {cs rest : List Char} {seconds : Int}
    (h : offset (fun cs => (char ':' cs).map (·.2)) cs = .ok (seconds, rest))
    (hrange : seconds.natAbs < 86400) : ∃ front, cs = front ++ rest ∧ Zone front seconds := by
  -- of the hours, only those below a day are left
  have hhours : ∀ hour minute, (zoneSeconds hour minute).natAbs < 86400 →
      ofDigits hour < 24 := by
    intro hour minute h
    unfold zoneSeconds at h
    omega
  unfold offset at h
  split at h
  · cases h
  · cases h
    exact ⟨['Z'], rfl, .utc (.inl rfl)⟩
  · cases h
    exact ⟨['z'], rfl, .utc (.inr rfl)⟩
  · obtain ⟨hour, minute, hhour, hminute, hlt, rfl, rfl⟩ := signedOffset_eq_ok_iff.1 h
    exact ⟨_, by simp, .ahead hhour hminute ⟨hhours hour minute hrange, hlt⟩⟩
  · obtain ⟨hour, minute, hhour, hminute, hlt, rfl, rfl⟩ := signedOffset_eq_ok_iff.1 h
    refine ⟨_, by simp, .behind (.inl rfl) hhour hminute ⟨hhours hour minute ?_, hlt⟩⟩
    rwa [if_pos rfl, Int.natAbs_neg] at hrange
  · obtain ⟨hour, minute, hhour, hminute, hlt, rfl, rfl⟩ := signedOffset_eq_ok_iff.1 h
    refine ⟨_, by simp, .behind (.inr rfl) hhour hminute ⟨hhours hour minute ?_, hlt⟩⟩
    rwa [if_pos rfl, Int.natAbs_neg] at hrange
  · cases h

/-! ## Dates and times of day -/

/-- A reader takes the texts of values off the front, if no digit goes on behind them, and nothing
else. -/
structure Reads {α : Type} (read : List Char → ReadM (α × List Char))
    (Text : List Char → α → Prop) : Prop where
  complete : ∀ front rest a, Text front a → StopsDigits rest → read (front ++ rest) = .ok (a, rest)
  sound : ∀ cs rest a, read cs = .ok (a, rest) → ∃ front, cs = front ++ rest ∧ Text front a

/-- The text of a number. -/
def NumberText (least most : Nat) (ds : List Char) (n : Nat) : Prop :=
  IsNumber least most ds ∧ n = ofDigits ds

theorem reads_number {least most : Nat} (hmost : most ≤ 18) :
    Reads (number least most) (NumberText least most) where
  complete front rest n h hstop := by
    obtain ⟨hnumber, rfl⟩ := h
    have hlt := ofDigits_lt hnumber.digits
    have hpow : 10 ^ front.length ≤ 10 ^ 18 :=
      Nat.pow_le_pow_right (by decide) (Nat.le_trans hnumber.le_most hmost)
    exact number_eq_ok_iff.2 ⟨front, hnumber, rfl, .inr hstop, rfl, by omega⟩
  sound cs rest n h := by
    obtain ⟨ds, hnumber, hcs, -, hn, -⟩ := number_eq_ok_iff.1 h
    exact ⟨ds, hcs, hnumber, hn⟩

/-- The text of a date, with the texts of its parts. -/
inductive DateText (Year : List Char → Int → Prop) (Part : List Char → Nat → Prop) :
    List Char → CivilDate → Prop where
  | mk {year month day : List Char} {y : Int} {m d : Nat} (hyear : Year year y)
      (hmonth : Part month m) (hday : Part day d) (hm : 1 ≤ m ∧ m ≤ 12) (hd : 1 ≤ d ∧ d ≤ 31) :
      DateText Year Part (year ++ '-' :: (month ++ '-' :: day)) ⟨y, m, d⟩

/-- The text of a time of day, with the texts of its parts. -/
inductive ClockText (Part : List Char → Nat → Prop) : List Char → Nat × Nat × Nat → Prop where
  | mk {hour minute second : List Char} {h m s : Nat} (hhour : Part hour h)
      (hminute : Part minute m) (hsecond : Part second s) (hh : h ≤ 23) (hm : m ≤ 59)
      (hs : s ≤ 60) :
      ClockText Part (hour ++ ':' :: (minute ++ ':' :: second)) (h, m, s)

theorem stopsDigits_nil : StopsDigits [] := fun _ hc => nomatch hc

theorem stopsDigits_cons {c : Char} {rest : List Char} (h : Text.isAsciiDigit c = false) :
    StopsDigits (c :: rest) := by
  intro d hd
  cases hd
  exact h

section

variable {year : List Char → ReadM (Int × List Char)} {part : List Char → ReadM (Nat × List Char)}
  {Year : List Char → Int → Prop} {Part : List Char → Nat → Prop}

theorem reads_date (hyear : Reads year Year) (hpart : Reads part Part) :
    Reads (date year part id) (DateText Year Part) where
  complete front rest d h hstop := by
    cases h with
    | @mk yearText monthText dayText y m d hy hmonth hday hm hd =>
      have hdash : ∀ cs, StopsDigits ('-' :: cs) := fun cs => stopsDigits_cons (by decide)
      have h₁ := hyear.complete yearText ('-' :: (monthText ++ '-' :: (dayText ++ rest))) y hy
        (hdash _)
      have h₂ := hpart.complete monthText ('-' :: (dayText ++ rest)) m hmonth (hdash _)
      have h₃ := hpart.complete dayText rest d hday hstop
      have hchar : ∀ cs, char '-' ('-' :: cs) = .ok ((), cs) := fun cs => char_eq_ok_iff.2 rfl
      have hmonths : within 1 12 m = .ok () := within_eq_ok_iff.2 hm
      have hdays : within 1 31 d = .ok () := within_eq_ok_iff.2 hd
      simp only [List.append_assoc, List.cons_append, date, h₁, h₂, h₃, hchar, hmonths, hdays, id,
        bind, Except.bind]
      rfl
  sound cs rest d h := by
    obtain ⟨⟨y, cs₁⟩, h₁, k₁⟩ := exists_of_bind_eq_ok h
    obtain ⟨⟨_, cs₂⟩, h₂, k₂⟩ := exists_of_bind_eq_ok k₁
    obtain ⟨⟨m, cs₃⟩, h₃, k₃⟩ := exists_of_bind_eq_ok k₂
    obtain ⟨_, hm, k₄⟩ := exists_of_bind_eq_ok k₃
    obtain ⟨⟨_, cs₅⟩, h₅, k₅⟩ := exists_of_bind_eq_ok k₄
    obtain ⟨⟨n, cs₆⟩, h₆, k₆⟩ := exists_of_bind_eq_ok k₅
    obtain ⟨_, hd, k₇⟩ := exists_of_bind_eq_ok k₆
    cases k₇
    obtain ⟨yearText, rfl, hy⟩ := hyear.sound _ _ _ h₁
    obtain rfl := char_eq_ok_iff.1 h₂
    obtain ⟨monthText, rfl, hmonth⟩ := hpart.sound _ _ _ h₃
    obtain rfl := char_eq_ok_iff.1 h₅
    obtain ⟨dayText, rfl, hday⟩ := hpart.sound _ _ _ h₆
    exact ⟨_, by simp, .mk hy hmonth hday (within_eq_ok_iff.1 hm) (within_eq_ok_iff.1 hd)⟩

theorem reads_clock (hpart : Reads part Part) : Reads (clock part id) (ClockText Part) where
  complete front rest c h hstop := by
    cases h with
    | @mk hourText minuteText secondText h m s hhour hminute hsecond hh hm hs =>
      have hcolon : ∀ cs, StopsDigits (':' :: cs) := fun cs => stopsDigits_cons (by decide)
      have h₁ := hpart.complete hourText (':' :: (minuteText ++ ':' :: (secondText ++ rest))) h
        hhour (hcolon _)
      have h₂ := hpart.complete minuteText (':' :: (secondText ++ rest)) m hminute (hcolon _)
      have h₃ := hpart.complete secondText rest s hsecond hstop
      have hchar : ∀ cs, char ':' (':' :: cs) = .ok ((), cs) := fun cs => char_eq_ok_iff.2 rfl
      have hhours : within 0 23 h = .ok () := within_eq_ok_iff.2 ⟨Nat.zero_le h, hh⟩
      have hminutes : within 0 59 m = .ok () := within_eq_ok_iff.2 ⟨Nat.zero_le m, hm⟩
      have hseconds : within 0 60 s = .ok () := within_eq_ok_iff.2 ⟨Nat.zero_le s, hs⟩
      simp only [List.append_assoc, List.cons_append, clock, h₁, h₂, h₃, hchar, hhours, hminutes,
        hseconds, id, bind, Except.bind]
      rfl
  sound cs rest c h := by
    obtain ⟨⟨hour, cs₁⟩, h₁, k₁⟩ := exists_of_bind_eq_ok h
    obtain ⟨_, hh, k₂⟩ := exists_of_bind_eq_ok k₁
    obtain ⟨⟨_, cs₃⟩, h₃, k₃⟩ := exists_of_bind_eq_ok k₂
    obtain ⟨⟨minute, cs₄⟩, h₄, k₄⟩ := exists_of_bind_eq_ok k₃
    obtain ⟨_, hm, k₅⟩ := exists_of_bind_eq_ok k₄
    obtain ⟨⟨_, cs₆⟩, h₆, k₆⟩ := exists_of_bind_eq_ok k₅
    obtain ⟨⟨second, cs₇⟩, h₇, k₇⟩ := exists_of_bind_eq_ok k₆
    obtain ⟨_, hs, k₈⟩ := exists_of_bind_eq_ok k₇
    cases k₈
    obtain ⟨hourText, rfl, hhour⟩ := hpart.sound _ _ _ h₁
    obtain rfl := char_eq_ok_iff.1 h₃
    obtain ⟨minuteText, rfl, hminute⟩ := hpart.sound _ _ _ h₄
    obtain rfl := char_eq_ok_iff.1 h₆
    obtain ⟨secondText, rfl, hsecond⟩ := hpart.sound _ _ _ h₇
    exact ⟨_, by simp, .mk hhour hminute hsecond (within_eq_ok_iff.1 hh).2
      (within_eq_ok_iff.1 hm).2 (within_eq_ok_iff.1 hs).2⟩

end

/-! ## Strict and relaxed parts -/

/-- A year of four digits. -/
def StrictYear (cs : List Char) (y : Int) : Prop :=
  IsNumber 4 4 cs ∧ y = ofDigits cs

theorem reads_strictYear : Reads strictYear StrictYear where
  complete front rest y h hstop := by
    obtain ⟨hnumber, rfl⟩ := h
    have hread : Reads (number 4 4) (NumberText 4 4) := reads_number (by decide)
    rw [strictYear, hread.complete front rest _ ⟨hnumber, rfl⟩ hstop]
    rfl
  sound cs rest y h := by
    obtain ⟨⟨n, cs₁⟩, h₁, k₁⟩ := exists_of_bind_eq_ok h
    cases k₁
    obtain ⟨ds, hcs, hnumber, rfl⟩ := (reads_number (by decide)).sound _ _ _ h₁
    exact ⟨ds, hcs, hnumber, rfl⟩

theorem isBlank_of_isAsciiDigit {c : Char} (h : Text.isAsciiDigit c = true) :
    Text.isBlank c = false := by
  obtain ⟨hlow, hhigh⟩ := (Text.isAsciiDigit_iff c).1 h
  have hall : ∀ n ∈ List.range 58, 48 ≤ n → Text.isBlank (Char.ofNat n) = false := by decide
  have hc := hall c.toNat (List.mem_range.2 (by omega)) hlow
  rwa [Char.ofNat_toNat] at hc

/-- Blanks in front of a text. -/
def AfterBlanks {α : Type} (P : List Char → α → Prop) (cs : List Char) (a : α) : Prop :=
  ∃ blanks text, (∀ c ∈ blanks, Text.isBlank c = true) ∧ P text a ∧ cs = blanks ++ text

/-- A text that does not start with a blank is left when blanks are dropped. -/
theorem trimStart_append {blanks text : List Char} (hblanks : ∀ c ∈ blanks, Text.isBlank c = true)
    (htext : ∀ c ∈ text.head?, Text.isBlank c = false) :
    Text.trimStart (blanks ++ text) = text :=
  Text.dropWhile_append_stop hblanks htext

theorem exists_blanks (cs : List Char) :
    ∃ blanks, (∀ c ∈ blanks, Text.isBlank c = true) ∧ cs = blanks ++ Text.trimStart cs :=
  ⟨cs.takeWhile Text.isBlank, List.all_eq_true.1 List.all_takeWhile,
    List.takeWhile_append_dropWhile.symm⟩

theorem IsNumber.head_not_blank {least most : Nat} {ds rest : List Char}
    (h : IsNumber (least + 1) most ds) : ∀ c ∈ (ds ++ rest).head?, Text.isBlank c = false := by
  cases ds with
  | nil => exact absurd h.least_le (Nat.not_succ_le_zero least)
  | cons d ds =>
    intro c hc
    cases hc
    exact isBlank_of_isAsciiDigit (h.digits d List.mem_cons_self)

/-- A number of one or two digits after blanks. -/
def LooseNumber : List Char → Nat → Prop :=
  AfterBlanks (NumberText 1 2)

theorem reads_looseNumber : Reads looseNumber LooseNumber where
  complete front rest n h hstop := by
    obtain ⟨blanks, text, hblanks, hnumber, rfl⟩ := h
    have hread : Reads (number 1 2) (NumberText 1 2) := reads_number (by decide)
    rw [List.append_assoc, looseNumber, trimStart_append hblanks hnumber.1.head_not_blank]
    exact hread.complete text rest n hnumber hstop
  sound cs rest n h := by
    obtain ⟨blanks, hblanks, hcs⟩ := exists_blanks cs
    obtain ⟨text, htrim, hnumber⟩ := (reads_number (by decide)).sound _ _ _ h
    exact ⟨blanks ++ text, by rw [hcs, htrim, List.append_assoc],
      blanks, text, hblanks, hnumber, rfl⟩

/-- As many digits as there are make a number, if it is not out of range. -/
theorem number_all_eq_ok_iff {n : Nat} {cs rest : List Char} (hstop : StopsDigits rest) :
    number 1 (cs ++ rest).length.succ (cs ++ rest) = .ok (n, rest) ↔
      cs ≠ [] ∧ (∀ c ∈ cs, Text.isAsciiDigit c = true) ∧ n = ofDigits cs ∧ n < 2 ^ 63 := by
  rw [number_eq_ok_iff]
  constructor
  · rintro ⟨ds, hnumber, hcs, -, rfl, hlt⟩
    obtain rfl := List.append_cancel_right hcs
    exact ⟨List.length_pos_iff.1 hnumber.least_le, hnumber.digits, rfl, hlt⟩
  · rintro ⟨hne, hdigits, rfl, hlt⟩
    refine ⟨cs, ⟨hdigits, List.length_pos_iff.2 hne, ?_⟩, rfl, .inr hstop, rfl, hlt⟩
    rw [List.length_append]
    omega

/-- A year of up to four digits, or of any number of them after a sign. -/
inductive SignedYear : List Char → Int → Prop where
  | plain {ds : List Char} (h : IsNumber 1 4 ds) : SignedYear ds (ofDigits ds)
  | negative {ds : List Char} (hne : ds ≠ []) (hdigits : ∀ c ∈ ds, Text.isAsciiDigit c = true)
      (hrange : ofDigits ds < 2 ^ 63) : SignedYear ('-' :: ds) (-(ofDigits ds : Int))
  | positive {ds : List Char} (hne : ds ≠ []) (hdigits : ∀ c ∈ ds, Text.isAsciiDigit c = true)
      (hrange : ofDigits ds < 2 ^ 63) : SignedYear ('+' :: ds) (ofDigits ds)

theorem SignedYear.head_not_blank {text rest : List Char} {y : Int} (h : SignedYear text y) :
    ∀ c ∈ (text ++ rest).head?, Text.isBlank c = false := by
  cases h with
  | plain hnumber => exact hnumber.head_not_blank
  | negative hne hdigits hrange =>
    intro c hc
    cases hc
    decide
  | positive hne hdigits hrange =>
    intro c hc
    cases hc
    decide

theorem reads_signedYear : Reads signedYear SignedYear where
  complete front rest y h hstop := by
    cases h with
    | plain hnumber =>
      have hread : Reads (number 1 4) (NumberText 1 4) := reads_number (by decide)
      have hn := hread.complete front rest _ ⟨hnumber, rfl⟩ hstop
      -- a digit is no sign
      have hsign : ∀ c, Text.isAsciiDigit c = false → ∀ cs, front ++ rest ≠ c :: cs := by
        intro c hc cs heq
        cases front with
        | nil => exact absurd hnumber.least_le (by decide)
        | cons d ds =>
          cases heq
          rw [hnumber.digits c List.mem_cons_self] at hc
          cases hc
      rw [signedYear, hn]
      · rfl
      · exact hsign '-' (by decide)
      · exact hsign '+' (by decide)
    | @negative ds hne hdigits hrange =>
      have hn := (number_all_eq_ok_iff hstop).2 ⟨hne, hdigits, rfl, hrange⟩
      rw [List.cons_append, signedYear, hn]
      rfl
    | @positive ds hne hdigits hrange =>
      have hn := (number_all_eq_ok_iff hstop).2 ⟨hne, hdigits, rfl, hrange⟩
      rw [List.cons_append, signedYear, hn]
      rfl
  sound cs rest y h := by
    unfold signedYear at h
    split at h
    · obtain ⟨⟨n, rest'⟩, hn, hpure⟩ := exists_of_bind_eq_ok h
      cases hpure
      obtain ⟨ds, hnumber, rfl, -, rfl, hrange⟩ := number_eq_ok_iff.1 hn
      exact ⟨_, rfl, .negative (List.length_pos_iff.1 hnumber.least_le) hnumber.digits hrange⟩
    · obtain ⟨⟨n, rest'⟩, hn, hpure⟩ := exists_of_bind_eq_ok h
      cases hpure
      obtain ⟨ds, hnumber, rfl, -, rfl, hrange⟩ := number_eq_ok_iff.1 hn
      exact ⟨_, rfl, .positive (List.length_pos_iff.1 hnumber.least_le) hnumber.digits hrange⟩
    · obtain ⟨⟨n, rest'⟩, hn, hpure⟩ := exists_of_bind_eq_ok h
      cases hpure
      obtain ⟨ds, hnumber, rfl, -, rfl, -⟩ := number_eq_ok_iff.1 hn
      exact ⟨ds, rfl, .plain hnumber⟩

/-- A year after blanks that fits into 32 bits. -/
def LooseYear (cs : List Char) (y : Int) : Prop :=
  AfterBlanks SignedYear cs y ∧ -0x80000000 ≤ y ∧ y < 0x80000000

theorem reads_looseYear : Reads looseYear LooseYear where
  complete front rest y h hstop := by
    obtain ⟨⟨blanks, text, hblanks, hyear, rfl⟩, hrange⟩ := h
    have hread := reads_signedYear.complete text rest y hyear hstop
    rw [List.append_assoc, looseYear, trimStart_append hblanks hyear.head_not_blank, hread]
    exact if_pos hrange
  sound cs rest y h := by
    obtain ⟨blanks, hblanks, hcs⟩ := exists_blanks cs
    obtain ⟨⟨y', rest'⟩, hyear, hchecked⟩ := exists_of_bind_eq_ok h
    simp only at hchecked
    split at hchecked
    · next hrange =>
      cases hchecked
      obtain ⟨text, htrim, hsigned⟩ := reads_signedYear.sound _ _ _ hyear
      exact ⟨blanks ++ text, by rw [hcs, htrim, List.append_assoc],
        ⟨blanks, text, hblanks, hsigned, rfl⟩, hrange⟩
    · cases hchecked

/-- The text of a date with all its digits. -/
def StrictDate : List Char → CivilDate → Prop :=
  DateText StrictYear (NumberText 2 2)

/-- The text of a time of day with all its digits. -/
def StrictClock : List Char → Nat × Nat × Nat → Prop :=
  ClockText (NumberText 2 2)

/-- The text of a date in the relaxed form. -/
def LooseDate : List Char → CivilDate → Prop :=
  DateText LooseYear LooseNumber

/-- The text of a time of day in the relaxed form. -/
def LooseClock : List Char → Nat × Nat × Nat → Prop :=
  ClockText LooseNumber

theorem reads_strictDate : Reads strictDate StrictDate :=
  reads_date reads_strictYear (reads_number (by decide))

theorem reads_strictClock : Reads strictClock StrictClock :=
  reads_clock (reads_number (by decide))

theorem reads_looseDate : Reads (looseDate id) LooseDate :=
  reads_date reads_looseYear reads_looseNumber

theorem reads_looseClock : Reads (looseClock id) LooseClock :=
  reads_clock reads_looseNumber

/-- Neither a digit nor a point starts an offset. -/
theorem Zone.head {zone : List Char} {offset : Int} (h : Zone zone offset) :
    StopsDigits zone ∧ zone.head? ≠ some '.' := by
  cases h with
  | utc hc => rcases hc with rfl | rfl <;> exact ⟨stopsDigits_cons (by decide), by decide⟩
  | ahead hhour hminute hrange => exact ⟨stopsDigits_cons (by decide), by simp⟩
  | behind hsign hhour hminute hrange =>
    rcases hsign with rfl | rfl <;> exact ⟨stopsDigits_cons (by decide), by simp⟩

theorem Fraction.stopsDigits_append {fraction zone : List Char} {nanos : Nat} {offset : Int}
    (h : Fraction fraction nanos) (hzone : Zone zone offset) : StopsDigits (fraction ++ zone) := by
  cases h with
  | none => exact hzone.head.1
  | some hne hdigits => exact stopsDigits_cons (by decide)

end Time

/-! ## Whole texts -/

namespace Instant

open Time

/-- The text of a timestamp and the instant that it denotes. -/
inductive Timestamp : List Char → Instant → Prop where
  | mk {date clock fraction zone : List Char} {d : CivilDate} {hour minute second nanos : Nat}
      {sep : Char} {offset : Int} (hdate : StrictDate date d) (hvalid : d.isValid = true)
      (hsep : sep = 'T' ∨ sep = 't' ∨ sep = ' ') (hclock : StrictClock clock (hour, minute, second))
      (hfraction : Fraction fraction nanos) (hzone : Zone zone offset) :
      Timestamp (date ++ sep :: (clock ++ (fraction ++ zone)))
        (ofLocal ⟨d, hour, minute, second, nanos, hfraction.lt⟩ offset)

theorem readTimestamp_eq_ok_iff {cs : List Char} {t : Instant} :
    readTimestamp cs = .ok t ↔ Timestamp cs t := by
  constructor
  · intro h
    obtain ⟨⟨d, cs₁⟩, h₁, k₁⟩ := exists_of_bind_eq_ok h
    obtain ⟨⟨_, cs₂⟩, h₂, k₂⟩ := exists_of_bind_eq_ok k₁
    obtain ⟨⟨⟨hour, minute, second⟩, cs₃⟩, h₃, k₃⟩ := exists_of_bind_eq_ok k₂
    obtain ⟨⟨nanos, cs₄⟩, h₄, k₄⟩ := exists_of_bind_eq_ok k₃
    obtain ⟨⟨offset, cs₅⟩, h₅, k₅⟩ := exists_of_bind_eq_ok k₄
    simp only at k₅
    split at k₅
    · cases k₅
    next hrange =>
    obtain ⟨_, h₆, k₆⟩ := exists_of_bind_eq_ok k₅
    obtain ⟨d', h₇, k₇⟩ := exists_of_bind_eq_ok k₆
    cases k₇
    obtain ⟨hvalid, rfl⟩ := existing_eq_ok_iff.1 h₇
    obtain rfl := finish_eq_ok_iff.1 h₆
    obtain ⟨date, rfl, hdate⟩ := reads_strictDate.sound _ _ _ h₁
    obtain ⟨sep, hsep, rfl⟩ := separator_eq_ok_iff.1 h₂
    obtain ⟨clock, rfl, hclock⟩ := reads_strictClock.sound _ _ _ h₃
    obtain ⟨fraction, rfl, hfraction⟩ := exists_fraction h₄
    obtain ⟨zone, rfl, hzone⟩ := exists_zone h₅ (by omega)
    rw [List.append_nil]
    exact .mk hdate hvalid hsep hclock hfraction hzone
  · intro h
    cases h with
    | @mk date clock fraction zone d hour minute second nanos sep offset hdate hvalid hsep hclock
        hfraction hzone =>
      have hstop : StopsDigits (sep :: (clock ++ (fraction ++ zone))) :=
        stopsDigits_cons (isAsciiDigit_separator hsep)
      have h₁ := reads_strictDate.complete date _ d hdate hstop
      have h₂ : separator (sep :: (clock ++ (fraction ++ zone))) = .ok ((), _) :=
        separator_eq_ok_iff.2 ⟨sep, hsep, rfl⟩
      have h₃ := reads_strictClock.complete clock _ _ hclock (hfraction.stopsDigits_append hzone)
      have h₄ := optionalFraction_append hfraction hzone.head.1 hzone.head.2
      have h₅ := offset_append hzone []
      rw [List.append_nil] at h₅
      have h₆ : finish [] = .ok () := rfl
      have h₇ : existing d = .ok d := existing_eq_ok_iff.2 ⟨hvalid, rfl⟩
      have hrange : ¬ 86400 ≤ offset.natAbs := Nat.not_le.2 hzone.natAbs_lt
      simp only [readTimestamp, h₁, h₂, h₃, h₄, h₅, h₆, h₇, bind, Except.bind, if_neg hrange]
      rfl

/-- The text of a local time and the instant that it denotes, in universal time. -/
inductive LocalText : List Char → Instant → Prop where
  | mk {date clock : List Char} {d : CivilDate} {hour minute second : Nat}
      (hdate : LooseDate date d) (hvalid : d.isValid = true)
      (hclock : LooseClock clock (hour, minute, second)) :
      LocalText (date ++ 'T' :: clock) (ofLocal ⟨d, hour, minute, second, 0, by decide⟩ 0)

theorem readLocalTime_eq_ok_iff {cs : List Char} {t : Instant} :
    readLocalTime cs = .ok t ↔ LocalText cs t := by
  constructor
  · intro h
    obtain ⟨⟨d, cs₁⟩, h₁, k₁⟩ := exists_of_bind_eq_ok h
    obtain ⟨⟨_, cs₂⟩, h₂, k₂⟩ := exists_of_bind_eq_ok k₁
    obtain ⟨⟨⟨hour, minute, second⟩, cs₃⟩, h₃, k₃⟩ := exists_of_bind_eq_ok k₂
    obtain ⟨_, h₄, k₄⟩ := exists_of_bind_eq_ok k₃
    obtain ⟨d', h₅, k₅⟩ := exists_of_bind_eq_ok k₄
    cases k₅
    obtain ⟨hvalid, rfl⟩ := existing_eq_ok_iff.1 h₅
    obtain rfl := finish_eq_ok_iff.1 h₄
    obtain ⟨date, rfl, hdate⟩ := reads_looseDate.sound _ _ _ h₁
    obtain rfl := char_eq_ok_iff.1 h₂
    obtain ⟨clock, rfl, hclock⟩ := reads_looseClock.sound _ _ _ h₃
    rw [List.append_nil]
    exact .mk hdate hvalid hclock
  · intro h
    cases h with
    | @mk date clock d hour minute second hdate hvalid hclock =>
      have h₁ := reads_looseDate.complete date ('T' :: clock) d hdate
        (stopsDigits_cons (by decide))
      have h₂ : char 'T' ('T' :: clock) = .ok ((), clock) := char_eq_ok_iff.2 rfl
      have h₃ := reads_looseClock.complete clock [] _ hclock stopsDigits_nil
      rw [List.append_nil] at h₃
      have h₄ : finish [] = .ok () := rfl
      have h₅ : existing d = .ok d := existing_eq_ok_iff.2 ⟨hvalid, rfl⟩
      simp only [readLocalTime, h₁, h₂, h₃, h₄, h₅, bind, Except.bind]
      rfl

theorem readDate_eq_ok_iff {cs : List Char} {t : Instant} :
    readDate cs = .ok t ↔ ∃ d, LooseDate cs d ∧ d.isValid = true ∧ t = ofDate d := by
  constructor
  · intro h
    obtain ⟨⟨d, cs₁⟩, h₁, k₁⟩ := exists_of_bind_eq_ok h
    obtain ⟨_, h₂, k₂⟩ := exists_of_bind_eq_ok k₁
    obtain ⟨d', h₃, k₃⟩ := exists_of_bind_eq_ok k₂
    cases k₃
    obtain ⟨hvalid, rfl⟩ := existing_eq_ok_iff.1 h₃
    obtain rfl := finish_eq_ok_iff.1 h₂
    obtain ⟨date, rfl, hdate⟩ := reads_looseDate.sound _ _ _ h₁
    exact ⟨d, by rwa [List.append_nil], hvalid, rfl⟩
  · rintro ⟨d, hdate, hvalid, rfl⟩
    have h₁ := reads_looseDate.complete cs [] d hdate stopsDigits_nil
    rw [List.append_nil] at h₁
    have h₂ : finish [] = .ok () := rfl
    have h₃ : existing d = .ok d := existing_eq_ok_iff.2 ⟨hvalid, rfl⟩
    simp only [readDate, h₁, h₂, h₃, bind, Except.bind]
    rfl

end Instant

end Catalog
