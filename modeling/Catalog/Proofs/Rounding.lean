import Catalog.Binary64.Decimal
import Mathlib.Algebra.Order.Field.Power
import Mathlib.Tactic.FieldSimp
import Mathlib.Tactic.Linarith
import Mathlib.Tactic.NormNum
import Mathlib.Tactic.Positivity
import Mathlib.Tactic.Ring

/-!
# Rounding to doubles

A finite double stands for all numbers that are nearer to it than to its neighbours, and for those
half way between if its significand is even. A quotient rounds to the double that stands for it.

## Key results

- `Binary64.magnitude_eq`: the bits of a double by its significand and its exponent
- `Binary64.exponentOfRatio_spec`: the exponent that a quotient is rounded at
- `Binary64.ofRatio_of_near`: a quotient near a double rounds to it
-/

namespace Catalog.Binary64

/-! ## Significand and exponent -/

theorem exponent_eq (x : Binary64) :
    x.exponent = (max (x.magnitude / 2 ^ 52) 1 : Nat) - 1075 := rfl

theorem significand_eq (x : Binary64) : x.significand =
    if x.magnitude < 2 ^ 52 then x.magnitude % 2 ^ 52 else x.magnitude % 2 ^ 52 + 2 ^ 52 := rfl

/-- The bits below the sign are the exponent, counted from the least one, and the significand, whose
leading bit adds one to the exponent. -/
theorem magnitude_eq (x : Binary64) :
    x.magnitude = (x.exponent + 1074).toNat * 2 ^ 52 + x.significand := by
  have hdiv := Nat.div_add_mod x.magnitude (2 ^ 52)
  rw [exponent_eq, significand_eq]
  split
  · next h =>
    rw [Nat.div_eq_of_lt h] at hdiv ⊢
    omega
  · next h =>
    have : 1 ≤ x.magnitude / 2 ^ 52 := by
      rw [Nat.le_div_iff_mul_le (by decide)]
      omega
    rw [Nat.max_eq_left this]
    omega

theorem le_exponent (x : Binary64) : -1074 ≤ x.exponent := by
  simp only [exponent]
  omega

theorem significand_lt (x : Binary64) : x.significand < 2 ^ 53 := by
  have := Nat.mod_lt x.magnitude (show 0 < 2 ^ 52 by decide)
  rw [significand_eq]
  split <;> omega

/-- Above the least exponent, the leading bit of the significand is set. -/
theorem le_significand {x : Binary64} (h : -1074 < x.exponent) : 2 ^ 52 ≤ x.significand := by
  rw [exponent_eq] at h
  rw [significand_eq]
  split
  · next hlt =>
    rw [Nat.div_eq_of_lt hlt] at h
    omega
  · omega

/-- A double is its sign and the bits below it. -/
theorem ofMagnitude_magnitude (x : Binary64) : ofMagnitude x.isNegative x.magnitude = x := by
  have hlt := x.bits.toNat_lt
  have hbits : (if x.isNegative = true then 0x8000000000000000 + x.magnitude else x.magnitude) =
      x.bits.toNat := by
    simp only [isNegative, magnitude, decide_eq_true_eq]
    split <;> omega
  rw [ofMagnitude, hbits, UInt64.ofNat_toNat]

/-! ## Rounding a quotient to an integer -/

/-- A quotient rounds to the integer nearest to it, and half way to the even one. -/
theorem roundHalfEven_eq {n d s : Nat} (hd : 0 < d) (hlow : 2 * s * d ≤ 2 * n + d)
    (hhigh : 2 * n ≤ (2 * s + 1) * d)
    (htie : s % 2 = 0 ∨ (2 * s * d < 2 * n + d ∧ 2 * n < (2 * s + 1) * d)) :
    roundHalfEven n d = s := by
  have hdiv := Nat.div_add_mod n d
  have hmod := Nat.mod_lt n hd
  -- the integer is the quotient or the one above it
  have hle : n / d ≤ s := by
    by_contra hlt
    have : (s + 1) * d ≤ n / d * d := Nat.mul_le_mul_right d (by omega)
    rw [Nat.mul_comm (n / d)] at this
    simp only [Nat.add_mul, Nat.mul_assoc] at *
    omega
  have hge : s ≤ n / d + 1 := by
    by_contra hlt
    have : (n / d + 2) * d ≤ s * d := Nat.mul_le_mul_right d (by omega)
    simp only [Nat.add_mul, Nat.mul_assoc] at *
    rw [Nat.mul_comm (n / d)] at this
    omega
  have hcases : s = n / d ∨ s = n / d + 1 := by omega
  rw [roundHalfEven]
  rcases hcases with h | h <;> rw [h] at hlow hhigh htie ⊢ <;>
    simp only [Nat.add_mul, Nat.mul_add, Nat.mul_assoc, Nat.mul_comm (n / d) d]
      at hlow hhigh htie <;>
    repeat' split
  all_goals omega

/-! ## The exponent of a quotient -/

/-- Scaling divides a quotient by a power of two. -/
theorem scale_spec (num : Nat) {den : Nat} (hden : 0 < den) (e : Int) :
    0 < (scale num den e).2 ∧
      ((scale num den e).1 : ℚ) / (scale num den e).2 = (num : ℚ) / den / 2 ^ e := by
  rw [scale]
  split
  · next h =>
    obtain ⟨k, rfl⟩ := Int.eq_ofNat_of_zero_le h
    refine ⟨Nat.mul_pos hden (Nat.two_pow_pos _), ?_⟩
    rw [Int.toNat_natCast, Nat.pow_eq, zpow_natCast, div_div]
    push_cast
    rfl
  · next h =>
    obtain ⟨k, hk⟩ := Int.eq_ofNat_of_zero_le (show 0 ≤ -e by omega)
    obtain rfl : e = -(k : Int) := by omega
    refine ⟨hden, ?_⟩
    rw [neg_neg, Int.toNat_natCast, Nat.pow_eq, zpow_neg, zpow_natCast, div_inv_eq_mul]
    push_cast
    ring

/-- A positive quotient lies between the powers of two of its numerator and its denominator. -/
theorem two_zpow_lt_ratio {num den : Nat} (hnum : num ≠ 0) (hden : den ≠ 0) :
    (2 : ℚ) ^ ((num.log2 : Int) - den.log2 - 1) < (num : ℚ) / den ∧
      (num : ℚ) / den < (2 : ℚ) ^ ((num.log2 : Int) - den.log2 + 1) := by
  have hnumLow : (2 : ℚ) ^ (num.log2 : Int) ≤ num := by
    rw [zpow_natCast]
    exact_mod_cast Nat.log2_self_le hnum
  have hnumHigh : (num : ℚ) < 2 ^ ((num.log2 : Int) + 1) := by
    rw [← Nat.cast_succ, zpow_natCast]
    exact_mod_cast Nat.lt_log2_self
  have hdenLow : (2 : ℚ) ^ (den.log2 : Int) ≤ den := by
    rw [zpow_natCast]
    exact_mod_cast Nat.log2_self_le hden
  have hdenHigh : (den : ℚ) < 2 ^ ((den.log2 : Int) + 1) := by
    rw [← Nat.cast_succ, zpow_natCast]
    exact_mod_cast Nat.lt_log2_self
  have hpos : (0 : ℚ) < den := by exact_mod_cast Nat.pos_of_ne_zero hden
  constructor
  · rw [lt_div_iff₀ hpos]
    calc (2 : ℚ) ^ ((num.log2 : Int) - den.log2 - 1) * den
        < 2 ^ ((num.log2 : Int) - den.log2 - 1) * 2 ^ ((den.log2 : Int) + 1) :=
          mul_lt_mul_of_pos_left hdenHigh (by positivity)
      _ = 2 ^ (num.log2 : Int) := by
          rw [← zpow_add₀ (by norm_num)]
          congr 1
          omega
      _ ≤ num := hnumLow
  · rw [div_lt_iff₀ hpos]
    calc (num : ℚ) < 2 ^ ((num.log2 : Int) + 1) := hnumHigh
      _ = 2 ^ ((num.log2 : Int) - den.log2 + 1) * 2 ^ (den.log2 : Int) := by
          rw [← zpow_add₀ (by norm_num)]
          congr 1
          omega
      _ ≤ 2 ^ ((num.log2 : Int) - den.log2 + 1) * den :=
          mul_le_mul_of_nonneg_left hdenLow (by positivity)

/-- The exponent of a positive quotient gives it a significand of at most 53 bits, and of exactly 53
bits above the least exponent. -/
theorem exponentOfRatio_spec {num den : Nat} (hnum : num ≠ 0) (hden : den ≠ 0) :
    -1074 ≤ exponentOfRatio num den ∧
      (num : ℚ) / den < 2 ^ 53 * 2 ^ exponentOfRatio num den ∧
      (exponentOfRatio num den = -1074 ∨
        (2 : ℚ) ^ 52 * 2 ^ exponentOfRatio num den ≤ (num : ℚ) / den) := by
  obtain ⟨hlow, hhigh⟩ := two_zpow_lt_ratio hnum hden
  have hshift : ∀ (k : Nat) (e : Int), (2 : ℚ) ^ k * 2 ^ e = 2 ^ (e + k) := by
    intro k e
    rw [← zpow_natCast, ← zpow_add₀ (by norm_num), add_comm]
  generalize hguess : (num.log2 : Int) - den.log2 - 52 = guess
  obtain ⟨hpos, hscale⟩ := scale_spec num (Nat.pos_of_ne_zero hden) guess
  rcases hpair : scale num den guess with ⟨n, d⟩
  rw [hpair] at hpos hscale
  have hfloor : n / d < 2 ^ 52 ↔ (num : ℚ) / den < 2 ^ 52 * 2 ^ guess := by
    have hd : (0 : ℚ) < d := by exact_mod_cast hpos
    rw [Nat.div_lt_iff_lt_mul hpos, ← div_lt_iff₀ (by positivity : (0 : ℚ) < 2 ^ guess), ← hscale,
      div_lt_iff₀ hd]
    exact_mod_cast Iff.rfl
  -- the exponent without the bound
  obtain ⟨e, he, hbelow, habove⟩ : ∃ e : Int, exponentOfRatio num den = max e (-1074) ∧
      (num : ℚ) / den < 2 ^ 53 * 2 ^ e ∧ (2 : ℚ) ^ 52 * 2 ^ e ≤ (num : ℚ) / den := by
    simp only [exponentOfRatio, hguess, hpair]
    by_cases hlt : n / d < 2 ^ 52
    · refine ⟨guess - 1, congrArg (max · (-1074)) (if_pos hlt), ?_, ?_⟩
      · have hexp : guess - 1 + (53 : Nat) = guess + (52 : Nat) := by omega
        rw [hshift, hexp, ← hshift]
        exact hfloor.1 hlt
      · have hexp : guess - 1 + (52 : Nat) = num.log2 - den.log2 - 1 := by omega
        rw [hshift, hexp]
        exact hlow.le
    · refine ⟨guess, congrArg (max · (-1074)) (if_neg hlt), ?_,
        not_lt.1 fun h => hlt (hfloor.2 h)⟩
      have hexp : guess + (53 : Nat) = num.log2 - den.log2 + 1 := by omega
      rw [hshift, hexp]
      exact hhigh
  rw [he]
  rcases le_total (-1074) e with hle | hle
  · rw [max_eq_left hle]
    exact ⟨hle, hbelow, .inr habove⟩
  · rw [max_eq_right hle]
    refine ⟨le_refl _, hbelow.trans_le ?_, .inl rfl⟩
    exact mul_le_mul_of_nonneg_left (zpow_le_zpow_right₀ (by norm_num) hle) (by norm_num)

/-! ## Numbers near a double -/

/-- The half distance to the double below, in units of the significand. Below a power of two the
doubles are twice as dense. -/
def gapBelow (x : Binary64) : ℚ :=
  if x.significand = 2 ^ 52 ∧ -1074 < x.exponent then 1 / 4 else 1 / 2

/-- The number `y` is nearer to the absolute value of a double than to its neighbours, or half way
to one of them if the significand is even. -/
structure Near (x : Binary64) (y : ℚ) : Prop where
  /-- It is not below half the distance to the double below. -/
  lower : (x.significand - x.gapBelow) * 2 ^ x.exponent ≤ y
  /-- It is not above half the distance to the double above. -/
  upper : y ≤ (x.significand + 1 / 2) * 2 ^ x.exponent
  /-- It is half way only if the significand is even. -/
  tie : x.significand % 2 = 0 ∨ ((x.significand - x.gapBelow) * 2 ^ x.exponent < y ∧
    y < (x.significand + 1 / 2) * 2 ^ x.exponent)

theorem gapBelow_le (x : Binary64) : x.gapBelow ≤ 1 / 2 := by
  rw [gapBelow]
  split <;> norm_num

/-- A quotient rounds to an integer that is at most one half away. -/
theorem roundHalfEven_of_abs {n d s : Nat} (hd : 0 < d) (hlow : (s : ℚ) - 1 / 2 ≤ (n : ℚ) / d)
    (hhigh : (n : ℚ) / d ≤ s + 1 / 2)
    (htie : s % 2 = 0 ∨ ((s : ℚ) - 1 / 2 < (n : ℚ) / d ∧ (n : ℚ) / d < s + 1 / 2)) :
    roundHalfEven n d = s := by
  have hpos : (0 : ℚ) < d := by exact_mod_cast hd
  rw [le_div_iff₀ hpos, lt_div_iff₀ hpos, div_lt_iff₀ hpos] at *
  rw [div_le_iff₀ hpos] at hhigh
  refine roundHalfEven_eq hd ?_ ?_ (htie.imp_right fun h => ⟨?_, ?_⟩)
  · have : (2 * s * d : ℚ) ≤ 2 * n + d := by linarith
    exact_mod_cast this
  · have : (2 * n : ℚ) ≤ (2 * s + 1) * d := by linarith
    exact_mod_cast this
  · have : (2 * s * d : ℚ) < 2 * n + d := by linarith [h.1]
    exact_mod_cast this
  · have : (2 * n : ℚ) < (2 * s + 1) * d := by linarith [h.2]
    exact_mod_cast this

/-- A quotient near a double is rounded at its exponent, or at the one below if the significand is
the least one. -/
private theorem exponentOfRatio_of_near {x : Binary64} {num den : Nat} (hnum : num ≠ 0)
    (hden : den ≠ 0) (h : x.Near ((num : ℚ) / den)) :
    exponentOfRatio num den = x.exponent ∨
      (exponentOfRatio num den = x.exponent - 1 ∧ x.significand = 2 ^ 52 ∧
        -1074 < x.exponent) := by
  obtain ⟨hmin, hbelow, habove⟩ := exponentOfRatio_spec hnum hden
  obtain ⟨hlower, hupper, -⟩ := h
  have hpos : (0 : ℚ) < 2 ^ x.exponent := by positivity
  have hstep : ∀ k : Nat, (2 : ℚ) ^ (x.exponent - k) * 2 ^ k = 2 ^ x.exponent := by
    intro k
    rw [← zpow_natCast, ← zpow_add₀ (by norm_num), Int.sub_add_cancel]
  generalize exponentOfRatio num den = e at *
  generalize (num : ℚ) / den = y at *
  have hmono : ∀ {a b : Int}, a ≤ b → (2 : ℚ) ^ a ≤ 2 ^ b :=
    fun hab => zpow_le_zpow_right₀ (by norm_num) hab
  have hle : e ≤ x.exponent := by
    by_contra hlt
    have hleast := x.le_exponent
    have hsig : (x.significand : ℚ) + 1 ≤ 2 ^ 53 := by exact_mod_cast x.significand_lt
    have habove := habove.resolve_left (by omega)
    -- at a greater exponent the least significand is already out of reach
    have htwice : (2 : ℚ) ^ x.exponent * 2 ≤ 2 ^ e := by
      rw [← zpow_add_one₀ (by norm_num)]
      exact hmono (by omega)
    nlinarith
  rcases Int.lt_or_eq_of_le hle with hlt | heq
  · have hexp : -1074 < x.exponent := by omega
    have hsig : (2 : ℚ) ^ 52 ≤ x.significand := by exact_mod_cast le_significand hexp
    have hone := hstep 1
    have htwo := hstep 2
    have hnext : (2 : ℚ) ^ e ≤ 2 ^ (x.exponent - (1 : Nat)) := hmono (by omega)
    -- the quotient is less than the least significand of the exponent of the double
    have hleast : x.significand = 2 ^ 52 := by
      by_contra hne
      have hmore : (2 : ℚ) ^ 52 + 1 ≤ x.significand := by
        have := le_significand hexp
        exact_mod_cast (show 2 ^ 52 + 1 ≤ x.significand by omega)
      have hgap := x.gapBelow_le
      nlinarith
    refine .inr ⟨?_, hleast, hexp⟩
    by_contra hne
    -- two exponents below, even the greatest significand is too small
    have hfar : (2 : ℚ) ^ e ≤ 2 ^ (x.exponent - (2 : Nat)) := hmono (by omega)
    have hgap := x.gapBelow_le
    nlinarith
  · exact .inl heq

/-- The magnitude of a quotient near a double is that of the double. -/
theorem magnitudeOfRatio_of_near {x : Binary64} (hx : x.isFinite = true) {num den : Nat}
    (hnum : num ≠ 0) (hden : den ≠ 0) (h : x.Near ((num : ℚ) / den)) :
    magnitudeOfRatio num den = x.magnitude := by
  have hfinite : x.magnitude < infinityMagnitude := of_decide_eq_true hx
  have hmagnitude := x.magnitude_eq
  have hexponent := exponentOfRatio_of_near hnum hden h
  obtain ⟨-, hbelow, -⟩ := exponentOfRatio_spec hnum hden
  obtain ⟨hlower, hupper, htie⟩ := h
  simp only [magnitudeOfRatio, if_neg hnum]
  obtain ⟨hpos, hscale⟩ := scale_spec num (Nat.pos_of_ne_zero hden) (exponentOfRatio num den)
  generalize exponentOfRatio num den = e at *
  rcases hpair : scale num den e with ⟨n, d⟩
  rw [hpair] at hpos hscale
  have hunit : (0 : ℚ) < 2 ^ e := by positivity
  rw [eq_div_iff hunit.ne'] at hscale
  simp only
  rcases hexponent with rfl | ⟨rfl, hleast, hexp⟩
  · -- at the exponent of the double, the quotient rounds to the significand
    have hround : roundHalfEven n d = x.significand := by
      have hgap := x.gapBelow_le
      rw [← hscale] at hlower hupper htie
      rw [mul_le_mul_iff_left₀ hunit] at hlower hupper
      rw [mul_lt_mul_iff_left₀ hunit, mul_lt_mul_iff_left₀ hunit] at htie
      exact roundHalfEven_of_abs hpos (by linarith) hupper
        (htie.imp_right fun h => ⟨by linarith [h.1], h.2⟩)
    rw [hround]
    exact (congrArg (min · _) hmagnitude.symm).trans (Nat.min_eq_left hfinite.le)
  · -- one below it, the quotient rounds up to the next power of two
    have hround : roundHalfEven n d = 2 ^ 53 := by
      have hgap : x.gapBelow = 1 / 4 := if_pos ⟨hleast, hexp⟩
      have htwice : (2 : ℚ) ^ x.exponent = 2 * 2 ^ (x.exponent - 1) := by
        rw [← zpow_one_add₀ (by norm_num), add_sub_cancel]
      rw [← hscale, hgap, hleast, htwice, ← mul_assoc, mul_le_mul_iff_left₀ hunit] at hlower
      rw [← hscale, mul_lt_mul_iff_left₀ hunit] at hbelow
      refine roundHalfEven_of_abs hpos ?_ ?_ (.inl (by norm_num))
      · push_cast at hlower ⊢
        linarith
      · push_cast
        linarith
    have hcarry : (x.exponent - 1 + 1074).toNat * 2 ^ 52 + 2 ^ 53 = x.magnitude := by
      rw [hmagnitude, hleast]
      omega
    rw [hround]
    exact (congrArg (min · _) hcarry).trans (Nat.min_eq_left hfinite.le)

/-- A quotient near a double, with the sign of the double, rounds to it. -/
theorem ofRatio_of_near {x : Binary64} (hx : x.isFinite = true) {num den : Nat} (hnum : num ≠ 0)
    (hden : den ≠ 0) (h : x.Near ((num : ℚ) / den)) : ofRatio x.isNegative num den = x := by
  rw [ofRatio, magnitudeOfRatio_of_near hx hnum hden h, ofMagnitude_magnitude]

/-! ## Decimal numbers -/

theorem exponent_le {x : Binary64} (hx : x.isFinite = true) : x.exponent ≤ 971 := by
  have hlt : x.magnitude < 2047 * 2 ^ 52 := of_decide_eq_true hx
  have hdiv : x.magnitude / 2 ^ 52 < 2047 := Nat.div_lt_of_lt_mul (by omega)
  simp only [exponent]
  omega

/-- A number near a finite double is below the bound of all doubles. -/
theorem Near.lt_bound {x : Binary64} (hx : x.isFinite = true) {y : ℚ} (h : x.Near y) :
    y < 2 ^ (1024 : Int) := by
  have hsig : (x.significand : ℚ) + 1 ≤ 2 ^ 53 := by exact_mod_cast x.significand_lt
  have hunit : (0 : ℚ) < 2 ^ x.exponent := by positivity
  calc y ≤ (x.significand + 1 / 2) * 2 ^ x.exponent := h.upper
    _ < 2 ^ 53 * 2 ^ x.exponent := mul_lt_mul_of_pos_right (by linarith) hunit
    _ ≤ 2 ^ 53 * 2 ^ (971 : Int) :=
        mul_le_mul_of_nonneg_left (zpow_le_zpow_right₀ (by norm_num) (exponent_le hx))
          (by norm_num)
    _ = 2 ^ (1024 : Int) := by
        rw [← zpow_natCast, ← zpow_add₀ (by norm_num)]
        rfl

/-- A number near a double other than zero is not too small. -/
theorem Near.bound_le {x : Binary64} (hx : x.significand ≠ 0) {y : ℚ} (h : x.Near y) :
    (2 : ℚ) ^ (-1075 : Int) ≤ y := by
  have hsig : (1 : ℚ) ≤ x.significand := by exact_mod_cast Nat.one_le_iff_ne_zero.2 hx
  have hgap := x.gapBelow_le
  calc (2 : ℚ) ^ (-1075 : Int) = 1 / 2 * 2 ^ (-1074 : Int) := by
        rw [one_div, mul_comm]
        exact zpow_sub_one₀ (show (2 : ℚ) ≠ 0 by norm_num) (-1074)
    _ ≤ 1 / 2 * 2 ^ x.exponent :=
        mul_le_mul_of_nonneg_left (zpow_le_zpow_right₀ (by norm_num) x.le_exponent) (by norm_num)
    _ ≤ (x.significand - x.gapBelow) * 2 ^ x.exponent :=
        mul_le_mul_of_nonneg_right (by linarith) (by positivity)
    _ ≤ y := h.lower

/-- A decimal number near a finite double other than zero reads as this double. -/
theorem ofDecimal_of_near {x : Binary64} (hx : x.isFinite = true) (hzero : x.significand ≠ 0)
    {digits : Nat} (hdigits : digits ≠ 0) {e : Int} (h : x.Near (digits * 10 ^ e)) :
    ofDecimal x.isNegative digits e = x := by
  have hlow : (2 : ℚ) ^ (digits.log2 : Int) ≤ digits := by
    rw [zpow_natCast]
    exact_mod_cast Nat.log2_self_le hdigits
  have hhigh : (digits : ℚ) < 2 ^ ((digits.log2 : Int) + 1) := by
    rw [← Nat.cast_succ, zpow_natCast]
    exact_mod_cast Nat.lt_log2_self
  -- the branches for quotients out of range are not taken
  have hlarge : ¬ (1100 < 3 * e + (Nat.log2 digits + 1 : Nat) ∧ 0 < e) := by
    rintro ⟨hsize, hpos⟩
    obtain ⟨k, rfl⟩ := Int.eq_ofNat_of_zero_le hpos.le
    have hten : (2 : ℚ) ^ (3 * k : Int) ≤ 10 ^ (k : Int) := by
      rw [zpow_mul, zpow_natCast, zpow_natCast]
      exact pow_le_pow_left₀ (by norm_num) (by norm_num) k
    refine absurd (h.lt_bound hx) (not_lt.2 ?_)
    calc (2 : ℚ) ^ (1024 : Int) ≤ 2 ^ ((digits.log2 : Int) + 3 * k) :=
          zpow_le_zpow_right₀ (by norm_num) (by omega)
      _ = 2 ^ (digits.log2 : Int) * 2 ^ (3 * k : Int) := zpow_add₀ (by norm_num) _ _
      _ ≤ digits * 10 ^ (k : Int) := mul_le_mul hlow hten (by positivity) (by positivity)
  have hsmall : ¬ (3 * e + (Nat.log2 digits + 1 : Nat) < -1100 ∧ e < 0) := by
    rintro ⟨hsize, hneg⟩
    obtain ⟨k, hk⟩ := Int.eq_ofNat_of_zero_le (show 0 ≤ -e by omega)
    obtain rfl : e = -(k : Int) := by omega
    have hten : (10 : ℚ) ^ (-(k : Int)) ≤ 2 ^ (-(3 * k : Int)) := by
      rw [zpow_neg, zpow_neg, zpow_mul, zpow_natCast, zpow_natCast]
      exact inv_anti₀ (by positivity) (pow_le_pow_left₀ (by norm_num) (by norm_num) k)
    refine absurd (h.bound_le hzero) (not_le.2 ?_)
    calc (digits : ℚ) * 10 ^ (-(k : Int))
        < 2 ^ ((digits.log2 : Int) + 1) * 2 ^ (-(3 * k : Int)) :=
          mul_lt_mul hhigh hten (by positivity) (by positivity)
      _ = 2 ^ ((digits.log2 : Int) + 1 + -(3 * k)) := (zpow_add₀ (by norm_num) _ _).symm
      _ ≤ 2 ^ (-1075 : Int) := zpow_le_zpow_right₀ (by norm_num) (by omega)
  simp only [ofDecimal]
  rw [if_neg hdigits, if_neg hlarge, if_neg hsmall]
  split
  · next hpos =>
    obtain ⟨k, rfl⟩ := Int.eq_ofNat_of_zero_le hpos
    rw [zpow_natCast] at h
    rw [Int.toNat_natCast, Nat.pow_eq]
    refine ofRatio_of_near hx (Nat.mul_ne_zero hdigits (by positivity)) (by decide) ?_
    push_cast
    rwa [div_one]
  · next hneg =>
    obtain ⟨k, hk⟩ := Int.eq_ofNat_of_zero_le (show 0 ≤ -e by omega)
    obtain rfl : e = -(k : Int) := by omega
    rw [zpow_neg, zpow_natCast, ← div_eq_mul_inv] at h
    rw [neg_neg, Int.toNat_natCast, Nat.pow_eq]
    refine ofRatio_of_near hx hdigits (by positivity) ?_
    push_cast
    exact h

end Catalog.Binary64
