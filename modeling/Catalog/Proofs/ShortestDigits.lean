import Catalog.Binary64.Shortest
import Catalog.Proofs.Rounding

/-!
# Shortest digits

The digits that a finite double is written with are as many as told by their power of ten, and the
number that they write rounds to the double.

## Key results

- `Binary64.leadingPower_spec`: the power of ten of the leading digit
- `Binary64.shortestDigits_spec`: the digits round to the double
-/

namespace Catalog.Binary64

/-! ## Quotients -/

/-- The rational number of a quotient. -/
def ratio (q : Nat × Nat) : ℚ := (q.1 : ℚ) / q.2

theorem ratioLe_iff {a b : Nat × Nat} (ha : 0 < a.2) (hb : 0 < b.2) :
    ratioLe a b = true ↔ ratio a ≤ ratio b := by
  have ha : (0 : ℚ) < a.2 := by exact_mod_cast ha
  have hb : (0 : ℚ) < b.2 := by exact_mod_cast hb
  rw [ratioLe, decide_eq_true_eq, ratio, ratio, div_le_div_iff₀ ha hb]
  exact_mod_cast Iff.rfl

/-- A number times a power of `b`, as a quotient. -/
private theorem powerRatio_spec {b : Nat} (hb : 0 < b) (n : Nat) (e : Int) :
    0 < (if 0 ≤ e then (n * b ^ e.toNat, 1) else (n, b ^ (-e).toNat)).2 ∧
      ratio (if 0 ≤ e then (n * b ^ e.toNat, 1) else (n, b ^ (-e).toNat)) = n * (b : ℚ) ^ e := by
  split
  · next h =>
    obtain ⟨k, rfl⟩ := Int.eq_ofNat_of_zero_le h
    refine ⟨Nat.one_pos, ?_⟩
    rw [ratio, Int.toNat_natCast, zpow_natCast]
    push_cast
    rw [div_one]
  · next h =>
    obtain ⟨k, hk⟩ := Int.eq_ofNat_of_zero_le (show 0 ≤ -e by omega)
    obtain rfl : e = -(k : Int) := by omega
    refine ⟨Nat.pow_pos hb, ?_⟩
    rw [ratio, neg_neg, Int.toNat_natCast, zpow_neg, zpow_natCast, div_eq_mul_inv]
    push_cast
    rfl

theorem decimalRatio_spec (n : Nat) (e : Int) :
    0 < (decimalRatio n e).2 ∧ ratio (decimalRatio n e) = n * 10 ^ e := by
  rw [decimalRatio]
  exact_mod_cast powerRatio_spec (show 0 < 10 by decide) n e

theorem binaryRatio_spec (n : Nat) (e : Int) :
    0 < (binaryRatio n e).2 ∧ ratio (binaryRatio n e) = n * 2 ^ e := by
  rw [binaryRatio]
  exact_mod_cast powerRatio_spec (show 0 < 2 by decide) n e

/-! ## The interval of a double -/

/-- The ends of the interval around a double, and the double itself. -/
structure CellSpec (x : Binary64) (c : Cell) : Prop where
  /-- The double is a quotient. -/
  value_pos : 0 < c.value.2
  /-- The double. -/
  value : ratio c.value = x.significand * 2 ^ x.exponent
  /-- The lower end is a quotient. -/
  low_pos : 0 < c.low.2
  /-- Half way to the double below. -/
  low : ratio c.low = (x.significand - x.gapBelow) * 2 ^ x.exponent
  /-- The upper end is a quotient. -/
  high_pos : 0 < c.high.2
  /-- Half way to the double above. -/
  high : ratio c.high = (x.significand + 1 / 2) * 2 ^ x.exponent
  /-- The ends belong to the interval if the significand is even. -/
  closed : c.closed = true ↔ x.significand % 2 = 0

/-- The interval of a double has its ends half way to the neighbours. -/
theorem cell_spec {x : Binary64} (hx : x.significand ≠ 0) : CellSpec x (cell x) := by
  have hquarter : (2 : ℚ) ^ (x.exponent - 2) = 2 ^ x.exponent / 4 := by
    rw [zpow_sub₀ (by norm_num)]
    norm_num
  have hbelow : (((4 * x.significand -
      if x.significand = 2 ^ 52 ∧ 2 ^ 53 ≤ x.magnitude then 1 else 2 : Nat)) : ℚ) =
      4 * (x.significand - x.gapBelow) := by
    have hiff : (x.significand = 2 ^ 52 ∧ 2 ^ 53 ≤ x.magnitude) ↔
        (x.significand = 2 ^ 52 ∧ -1074 < x.exponent) := by
      have := x.magnitude_eq
      have := x.le_exponent
      constructor
      · rintro ⟨hs, hm⟩
        exact ⟨hs, by omega⟩
      · rintro ⟨hs, he⟩
        exact ⟨hs, by omega⟩
    rw [gapBelow, Nat.cast_sub (by split <;> omega)]
    simp only [hiff]
    split <;> push_cast <;> ring
  obtain ⟨hvalue, hvalueEq⟩ := binaryRatio_spec (4 * x.significand) (x.exponent - 2)
  obtain ⟨hlow, hlowEq⟩ := binaryRatio_spec (4 * x.significand -
    if x.significand = 2 ^ 52 ∧ 2 ^ 53 ≤ x.magnitude then 1 else 2) (x.exponent - 2)
  obtain ⟨hhigh, hhighEq⟩ := binaryRatio_spec (4 * x.significand + 2) (x.exponent - 2)
  refine ⟨hvalue, hvalueEq.trans ?_, hlow, hlowEq.trans ?_, hhigh, hhighEq.trans ?_,
    decide_eq_true_iff⟩
  · rw [hquarter]
    push_cast
    ring
  · rw [hbelow, hquarter]
    ring
  · rw [hquarter]
    push_cast
    ring

/-- A quotient in the interval of a double is near it. -/
theorem near_of_contains {x : Binary64} {c : Cell} (hc : CellSpec x c) {q : Nat × Nat}
    (hq : 0 < q.2) (h : c.contains q = true) : x.Near (ratio q) := by
  rw [Cell.contains] at h
  split at h
  · next hclosed =>
    rw [Bool.and_eq_true, ratioLe_iff hc.low_pos hq, ratioLe_iff hq hc.high_pos, hc.low,
      hc.high] at h
    exact ⟨h.1, h.2, .inl (hc.closed.1 hclosed)⟩
  · next hopen =>
    rw [Bool.and_eq_true, Bool.not_eq_true', Bool.not_eq_true', Bool.eq_false_iff,
      Bool.eq_false_iff, Ne, Ne, ratioLe_iff hq hc.low_pos, ratioLe_iff hc.high_pos hq, hc.low,
      hc.high, not_le, not_le] at h
    exact ⟨h.1.le, h.2.le, .inr h⟩

/-- A quotient strictly between the ends is in the interval. -/
theorem contains_of_between {x : Binary64} {c : Cell} (hc : CellSpec x c) {q : Nat × Nat}
    (hq : 0 < q.2) (hlow : ratio c.low < ratio q) (hhigh : ratio q < ratio c.high) :
    c.contains q = true := by
  rw [Cell.contains]
  split
  · rw [Bool.and_eq_true, ratioLe_iff hc.low_pos hq, ratioLe_iff hq hc.high_pos]
    exact ⟨hlow.le, hhigh.le⟩
  · rw [Bool.and_eq_true, Bool.not_eq_true', Bool.not_eq_true', Bool.eq_false_iff,
      Bool.eq_false_iff, Ne, Ne, ratioLe_iff hq hc.low_pos, ratioLe_iff hc.high_pos hq, not_le,
      not_le]
    exact ⟨hlow, hhigh⟩

/-! ## The leading power of ten -/

/-- Powers of two between powers of ten, for exponents that are not negative. -/
private theorem pow_bounds : ∀ k < 1101, 2 * 10 ^ (k * 30103 / 100000) ≤ 10 * 2 ^ k ∧
    2 ^ (k + 1) ≤ 10 ^ (k * 30103 / 100000 + 2) := by
  decide +kernel

/-- Powers of two between powers of ten, for the inverses. -/
private theorem inv_pow_bounds : ∀ k < 1101, 2 ^ (k + 1) ≤ 10 ^ ((k * 30103 + 99999) / 100000 + 1) ∧
    2 * 10 ^ ((k * 30103 + 99999) / 100000) ≤ 100 * 2 ^ k := by
  decide +kernel

/-- The guess of a power of ten from a power of two is off by at most one. -/
private theorem guess_bounds {l : Int} (hlow : -1100 ≤ l) (hhigh : l ≤ 1100) :
    (10 : ℚ) ^ (l * 30103 / 100000 - 1) ≤ 2 ^ (l - 1) ∧
      (2 : ℚ) ^ (l + 1) ≤ 10 ^ (l * 30103 / 100000 + 2) := by
  rcases Int.le_total 0 l with h | h
  · obtain ⟨k, rfl⟩ := Int.eq_ofNat_of_zero_le h
    obtain ⟨hfirst, hsecond⟩ := pow_bounds k (by omega)
    have hguess : (k : Int) * 30103 / 100000 = (k * 30103 / 100000 : Nat) := by omega
    rw [hguess]
    generalize k * 30103 / 100000 = g at *
    have hfirst : (2 : ℚ) * 10 ^ g ≤ 10 * 2 ^ k := by exact_mod_cast hfirst
    have hsecond : (2 : ℚ) ^ (k + 1) ≤ 10 ^ (g + 2) := by exact_mod_cast hsecond
    constructor
    · rw [zpow_sub_one₀ (by norm_num), zpow_sub_one₀ (by norm_num), zpow_natCast, zpow_natCast]
      linarith
    · exact_mod_cast hsecond
  · obtain ⟨k, hk⟩ := Int.eq_ofNat_of_zero_le (show 0 ≤ -l by omega)
    obtain rfl : l = -(k : Int) := by omega
    obtain ⟨hfirst, hsecond⟩ := inv_pow_bounds k (by omega)
    have hguess : -(k : Int) * 30103 / 100000 = -((k * 30103 + 99999) / 100000 : Nat) := by omega
    rw [hguess]
    generalize (k * 30103 + 99999) / 100000 = g at *
    have hfirst : (2 : ℚ) ^ (k + 1) ≤ 10 ^ (g + 1) := by exact_mod_cast hfirst
    have hsecond : (2 : ℚ) * 10 ^ g ≤ 100 * 2 ^ k := by exact_mod_cast hsecond
    constructor
    · have hleft : -(g : Int) - 1 = -((g + 1 : Nat) : Int) := by omega
      have hright : -(k : Int) - 1 = -((k + 1 : Nat) : Int) := by omega
      rw [hleft, hright, zpow_neg, zpow_neg, zpow_natCast, zpow_natCast]
      exact inv_anti₀ (by positivity) hfirst
    · rw [zpow_add₀ (by norm_num), zpow_add₀ (by norm_num), zpow_neg, zpow_neg, zpow_natCast,
        zpow_natCast, inv_mul_eq_div, inv_mul_eq_div, div_le_div_iff₀ (by positivity)
        (by positivity)]
      norm_num
      linarith

/-- The leading power of ten of a quotient within the range of doubles. -/
theorem leadingPower_spec {q : Nat × Nat} (hq : 0 < q.2) (hlow : (2 : ℚ) ^ (-1090 : Int) ≤ ratio q)
    (hhigh : ratio q < 2 ^ (1090 : Int)) :
    (10 : ℚ) ^ leadingPower q ≤ ratio q ∧ ratio q < 10 ^ (leadingPower q + 1) := by
  have hnum : q.1 ≠ 0 := by
    intro hzero
    rw [ratio, hzero, Nat.cast_zero, zero_div] at hlow
    exact absurd hlow (not_le.2 (by positivity))
  obtain ⟨hbelow, habove⟩ := two_zpow_lt_ratio hnum hq.ne'
  have hle : ((q.1.log2 : Int) - q.2.log2) ≤ 1100 := by
    have := (zpow_lt_zpow_iff_right₀ (by norm_num : (1 : ℚ) < 2)).1 (hbelow.trans hhigh)
    omega
  have hge : -1100 ≤ ((q.1.log2 : Int) - q.2.log2) := by
    have := (zpow_lt_zpow_iff_right₀ (by norm_num : (1 : ℚ) < 2)).1 (hlow.trans_lt habove)
    omega
  obtain ⟨hfirst, hsecond⟩ := guess_bounds hge hle
  rw [leadingPower]
  generalize ((q.1.log2 : Int) - q.2.log2) * 30103 / 100000 = g at *
  -- a test of a grid compares with a power of ten
  have hgrid : ∀ e : Int, ratioLe (decimalRatio 1 e) q = true ↔ (10 : ℚ) ^ e ≤ ratio q := by
    intro e
    obtain ⟨hpos, heq⟩ := decimalRatio_spec 1 e
    rw [ratioLe_iff hpos hq, heq, Nat.cast_one, one_mul]
  have hleast : (10 : ℚ) ^ (g - 1) ≤ ratio q := hfirst.trans hbelow.le
  have hmost : ratio q < 10 ^ (g + 1 + 1) := by
    rw [add_assoc]
    exact habove.trans_le hsecond
  -- the guess is corrected where it is off by one
  simp only [Bool.not_eq_true', Bool.eq_false_iff, Ne, hgrid]
  split
  · next h =>
    rw [Int.sub_add_cancel]
    exact ⟨hleast, not_le.1 h⟩
  · next h =>
    split
    · next h' => exact ⟨h', hmost⟩
    · next h' => exact ⟨not_not.1 h, not_le.1 h'⟩

/-! ## The search -/

/-- The floor of a number on a grid of powers of ten. -/
private theorem floor_bounds {num den : Nat} {y u : ℚ} (hden : 0 < den) (hu : 0 < u)
    (h : (num : ℚ) / den = y / u) :
    ((num / den : Nat) : ℚ) * u ≤ y ∧ y < ((num / den : Nat) + 1) * u := by
  have hpos : (0 : ℚ) < den := by exact_mod_cast hden
  have hdiv := Nat.div_add_mod num den
  have hmod := Nat.mod_lt num hden
  have hle : ((num / den : Nat) : ℚ) ≤ (num : ℚ) / den := by
    rw [le_div_iff₀ hpos]
    exact_mod_cast Nat.div_mul_le_self num den
  have hlt : (num : ℚ) / den < (num / den : Nat) + 1 := by
    rw [div_lt_iff₀ hpos]
    have : num < (num / den + 1) * den := by
      rw [Nat.add_mul, Nat.one_mul, Nat.mul_comm]
      omega
    exact_mod_cast this
  rw [h] at hle hlt
  exact ⟨(le_div_iff₀ hu).1 hle, (div_lt_iff₀ hu).1 hlt⟩

/-- A grid gives one of the two multiples next to the double, if it is in the interval of the
double, and fails only if neither is. -/
theorem nearestOnGrid?_spec {c : Cell} (hvalue : 0 < c.value.2) (e : Int) :
    ∃ d : Nat, (d : ℚ) * 10 ^ e ≤ ratio c.value ∧ ratio c.value < (d + 1) * 10 ^ e ∧
      (∀ k, nearestOnGrid? c e = some k →
        (k = d ∨ k = d + 1) ∧ c.contains (decimalRatio k e) = true) ∧
      (c.contains (decimalRatio d e) = true → nearestOnGrid? c e ≠ none) := by
  obtain ⟨hr, hone⟩ := decimalRatio_spec 1 e
  rcases hpair : decimalRatio 1 e with ⟨p, r⟩
  rw [hpair, ratio, Nat.cast_one, one_mul] at hone
  rw [hpair] at hr
  have hu : (0 : ℚ) < 10 ^ e := by positivity
  have hp : 0 < p := by
    refine Nat.pos_of_ne_zero fun hzero => ?_
    rw [hzero, Nat.cast_zero, zero_div] at hone
    exact hu.ne hone
  have hden : 0 < c.value.2 * p := Nat.mul_pos hvalue hp
  -- the quotient counts the steps of the grid up to the double
  have hquotient : ((c.value.1 * r : Nat) : ℚ) / (c.value.2 * p : Nat) =
      ratio c.value / 10 ^ e := by
    rw [← hone, ratio, div_div_div_eq]
    push_cast
    rfl
  obtain ⟨hlow, hhigh⟩ := floor_bounds hden hu hquotient
  refine ⟨c.value.1 * r / (c.value.2 * p), hlow, hhigh, ?_, ?_⟩
  · intro k hk
    simp only [nearestOnGrid?, hpair] at hk
    generalize c.value.1 * r / (c.value.2 * p) = d at hk ⊢
    generalize c.value.1 * r % (c.value.2 * p) = rest at hk
    cases hbelow : c.contains (decimalRatio d e) <;>
      cases habove : c.contains (decimalRatio (d + 1) e) <;>
      simp only [hbelow, habove, Bool.and_self, Bool.and_true, Bool.and_false, Bool.false_eq_true,
        if_true, if_false, Option.some.injEq, reduceCtorEq] at hk
    · exact ⟨.inr hk.symm, hk ▸ habove⟩
    · exact ⟨.inl hk.symm, hk ▸ hbelow⟩
    · -- both are in the interval, and the nearer one is taken
      have hcases : k = d ∨ k = d + 1 := by
        rw [← hk]
        split
        · exact .inl rfl
        · split
          · exact .inr rfl
          · omega
      refine ⟨hcases, ?_⟩
      rcases hcases with rfl | rfl
      · exact hbelow
      · exact habove
  · intro hbelow hnone
    simp only [nearestOnGrid?, hpair, hbelow, Bool.true_and, if_true] at hnone
    split at hnone <;> cases hnone

/-- The digits of a decimal number: as many as its leading power of ten tells, near the double. -/
def Writes (x : Binary64) (d : Digits) : Prop :=
  ∃ count : Nat, 10 ^ count ≤ d.digits ∧ d.digits < 10 ^ (count + 1) ∧
    x.Near (d.digits * 10 ^ (d.leading - count))

section Search

variable {x : Binary64} {c : Cell} {leading : Int}

private theorem pow_mul_grid (n : Nat) (e : Int) : (10 : ℚ) ^ n * 10 ^ (e - n) = 10 ^ e := by
  rw [← zpow_natCast, ← zpow_add₀ (by norm_num), add_sub_cancel]

/-- A multiple on a grid writes the double. Rounding up may have reached the next power of ten. -/
private theorem writes_of_nearestOnGrid? (hc : CellSpec x c)
    (hlow : (10 : ℚ) ^ leading ≤ ratio c.value) (hhigh : ratio c.value < 10 ^ (leading + 1))
    {count k : Nat} (hk : nearestOnGrid? c (leading - count) = some k) :
    Writes x (if k = 10 ^ (count + 1) then ⟨k / 10, leading + 1⟩ else ⟨k, leading⟩) := by
  obtain ⟨d, hbelow, habove, hsome, -⟩ := nearestOnGrid?_spec hc.value_pos (leading - count)
  obtain ⟨hcases, hcontains⟩ := hsome k hk
  obtain ⟨hpos, hratio⟩ := decimalRatio_spec k (leading - count)
  have hnear := near_of_contains hc hpos hcontains
  rw [hratio] at hnear
  have hu : (0 : ℚ) < 10 ^ (leading - count) := by positivity
  have hnext : (10 : ℚ) ^ (count + 1) * 10 ^ (leading - count) = 10 ^ (leading + 1) := by
    rw [pow_succ, mul_right_comm, pow_mul_grid, zpow_add_one₀ (by norm_num)]
  have hleast : 10 ^ count ≤ d := by
    have : (10 : ℚ) ^ count * 10 ^ (leading - count) < (d + 1) * 10 ^ (leading - count) := by
      rw [pow_mul_grid]
      exact hlow.trans_lt habove
    have := lt_of_mul_lt_mul_right this hu.le
    exact Nat.lt_succ_iff.1 (by exact_mod_cast this)
  have hmost : d < 10 ^ (count + 1) := by
    have : (d : ℚ) * 10 ^ (leading - count) < 10 ^ (count + 1) * 10 ^ (leading - count) := by
      rw [hnext]
      exact hbelow.trans_lt hhigh
    have := lt_of_mul_lt_mul_right this hu.le
    exact_mod_cast this
  have hdigits : 10 ^ count ≤ k ∧ k ≤ 10 ^ (count + 1) := by omega
  split
  · next hround =>
    -- the next power of ten is one with as many zeros as there were digits behind the first
    have hdiv : k / 10 = 10 ^ count := by
      rw [hround, Nat.pow_succ, Nat.mul_div_cancel _ (by decide)]
    refine ⟨count, by rw [hdiv], ?_, ?_⟩
    · rw [hdiv]
      exact Nat.pow_lt_pow_right (by decide) (Nat.lt_succ_self count)
    · rw [hround, Nat.cast_pow] at hnear
      rw [hdiv, Nat.cast_pow]
      push_cast at hnear ⊢
      rw [pow_mul_grid]
      rwa [hnext] at hnear
  · next hround => exact ⟨count, hdigits.1, hdigits.2.lt_of_ne hround, hnear⟩

/-- On the grid of 18 digits there is a multiple in the interval. -/
private theorem nearestOnGrid?_ne_none (hc : CellSpec x c)
    (hlow : (10 : ℚ) ^ leading ≤ ratio c.value) :
    nearestOnGrid? c (leading - (17 : Nat)) ≠ none := by
  obtain ⟨d, hbelow, habove, -, hfound⟩ := nearestOnGrid?_spec hc.value_pos (leading - (17 : Nat))
  obtain ⟨hpos, hratio⟩ := decimalRatio_spec d (leading - (17 : Nat))
  have hgrid := pow_mul_grid 17 leading
  have hunit : (0 : ℚ) < 2 ^ x.exponent := by positivity
  have hsig : (x.significand : ℚ) < 2 ^ 53 := by exact_mod_cast x.significand_lt
  have hvalue : ratio c.value < 2 ^ 53 * 2 ^ x.exponent := by
    rw [hc.value]
    exact mul_lt_mul_of_pos_right hsig hunit
  have hgap : (1 : ℚ) / 4 ≤ x.gapBelow := by
    rw [gapBelow]
    split <;> norm_num
  -- the grid is finer than a quarter of the last place
  have hfine : (10 : ℚ) ^ (leading - (17 : Nat)) < 1 / 4 * 2 ^ x.exponent := by
    norm_num at hgrid hvalue ⊢
    linarith
  refine hfound (contains_of_between hc hpos ?_ ?_)
  · have := mul_le_mul_of_nonneg_right hgap hunit.le
    rw [hratio, hc.low]
    rw [hc.value] at habove
    linarith
  · have : (x.significand : ℚ) * 2 ^ x.exponent < (x.significand + 1 / 2) * 2 ^ x.exponent :=
      mul_lt_mul_of_pos_right (by linarith) hunit
    rw [hratio, hc.high]
    rw [hc.value] at hbelow
    exact hbelow.trans_lt this

/-- The search gives digits near the double: it ends at the grid of 18 digits. -/
theorem searchGrids_spec (hc : CellSpec x c) (hlow : (10 : ℚ) ^ leading ≤ ratio c.value)
    (hhigh : ratio c.value < 10 ^ (leading + 1)) {count left : Nat} (hcount : count + left = 17) :
    Writes x (searchGrids c leading count (left + 1)) := by
  induction left generalizing count with
  | zero =>
    -- the last grid is always fine enough
    obtain rfl : count = 17 := hcount
    cases hk : nearestOnGrid? c (leading - (17 : Nat)) with
    | none => exact absurd hk (nearestOnGrid?_ne_none hc hlow)
    | some k =>
      simp only [searchGrids, hk]
      exact writes_of_nearestOnGrid? hc hlow hhigh hk
  | succ left ih =>
    rw [searchGrids]
    cases hk : nearestOnGrid? c (leading - count) with
    | none => exact ih (by omega)
    | some k => exact writes_of_nearestOnGrid? hc hlow hhigh hk

end Search

/-- The shortest digits of a finite double other than zero write it. -/
theorem shortestDigits_spec {x : Binary64} (hx : x.isFinite = true) (hzero : x.significand ≠ 0) :
    Writes x x.shortestDigits := by
  have hc := cell_spec hzero
  have hunit : (0 : ℚ) < 2 ^ x.exponent := by positivity
  -- the double is near itself, hence within the range that the guess is good for
  have hself : x.Near (ratio (cell x).value) := by
    have hgap : (1 : ℚ) / 4 ≤ x.gapBelow := by
      rw [gapBelow]
      split <;> norm_num
    have hlt : (x.significand - x.gapBelow) * 2 ^ x.exponent <
        x.significand * 2 ^ x.exponent := mul_lt_mul_of_pos_right (by linarith) hunit
    have hgt : (x.significand : ℚ) * 2 ^ x.exponent <
        (x.significand + 1 / 2) * 2 ^ x.exponent := mul_lt_mul_of_pos_right (by linarith) hunit
    rw [hc.value]
    exact ⟨hlt.le, hgt.le, .inr ⟨hlt, hgt⟩⟩
  have hbelow : (2 : ℚ) ^ (-1090 : Int) ≤ ratio (cell x).value :=
    (zpow_le_zpow_right₀ (by norm_num) (by decide)).trans (hself.bound_le hzero)
  have habove : ratio (cell x).value < 2 ^ (1090 : Int) :=
    (hself.lt_bound hx).trans_le (zpow_le_zpow_right₀ (by norm_num) (by decide))
  obtain ⟨hlow, hhigh⟩ := leadingPower_spec hc.value_pos hbelow habove
  exact searchGrids_spec hc hlow hhigh (show 0 + 17 = 17 from rfl)

end Catalog.Binary64
