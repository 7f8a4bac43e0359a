import Catalog.Proofs.Rounding

/-!
# Integers as doubles

The double nearest to an integer grows with the integer, but not strictly: from 2 ^ 53 on, several
integers share a double. Up to there every integer has one of its own.

## Key results

- `Binary64.magnitudeOfNat_mono`, `Binary64.magnitudeOfNat_strict`: greater numbers round to greater
  doubles, or to the same one
- `Binary64.compareTotal_ofInt`: two integers are ordered as their doubles are, or share a double
- `Binary64.separate_of_natAbs_le`: integers that have a double of their own
-/

namespace Catalog.Binary64

/-! ## Rounding quotients -/

/-- A greater numerator never rounds to a lesser integer. -/
theorem roundHalfEven_mono {m n d : Nat} (hd : 0 < d) (h : m ≤ n) :
    roundHalfEven m d ≤ roundHalfEven n d := by
  have hm := Nat.div_add_mod m d
  have hn := Nat.div_add_mod n d
  have hmd := Nat.mod_lt m hd
  have hnd := Nat.mod_lt n hd
  have hdiv : m / d ≤ n / d := Nat.div_le_div_right h
  unfold roundHalfEven
  rcases Nat.lt_or_eq_of_le hdiv with hlt | heq
  · -- rounding moves a quotient up by one at most
    simp only
    repeat' split
    all_goals omega
  · -- with the same quotient, the remainders are ordered as the numerators are
    rw [heq] at hm ⊢
    have hmod : m % d ≤ n % d := by omega
    simp only
    repeat' split
    all_goals omega

theorem roundHalfEven_bounds (n d : Nat) :
    n / d ≤ roundHalfEven n d ∧ roundHalfEven n d ≤ n / d + 1 := by
  unfold roundHalfEven
  simp only
  repeat' split
  all_goals omega

/-- A natural number is rounded to itself. -/
theorem roundHalfEven_one (n : Nat) : roundHalfEven n 1 = n := by
  unfold roundHalfEven
  simp [Nat.mod_one]

/-! ## Natural numbers -/

/-- The magnitude of the double nearest to a natural number. -/
def magnitudeOfNat (n : Nat) : Nat := magnitudeOfRatio n 1

/-- The significand of a number of at least one, with all its 53 bits. -/
def significandOfNat (n : Nat) : Nat :=
  let (num, den) := scale n 1 (n.log2 - 52)
  roundHalfEven num den

/-- The significand of a number of at most 53 bits is the number, shifted; further bits are rounded
away. -/
theorem significandOfNat_eq (n : Nat) : significandOfNat n =
    if n.log2 ≤ 52 then n * 2 ^ (52 - n.log2) else roundHalfEven n (2 ^ (n.log2 - 52)) := by
  unfold significandOfNat scale
  by_cases h : n.log2 ≤ 52
  · rw [if_pos h]
    by_cases hzero : (0 : Int) ≤ (n.log2 : Int) - 52
    · have heq : n.log2 = 52 := by omega
      simp [heq, roundHalfEven_one]
    · have hshift : (-((n.log2 : Int) - 52)).toNat = 52 - n.log2 := by omega
      rw [if_neg hzero, hshift]
      exact roundHalfEven_one _
  · have hpos : (0 : Int) ≤ (n.log2 : Int) - 52 := by omega
    have hshift : ((n.log2 : Int) - 52).toNat = n.log2 - 52 := by omega
    rw [if_neg h, if_pos hpos, hshift, Nat.one_mul]
    rfl

/-- A number of at least one is scaled to a significand of exactly 53 bits. -/
theorem exponentOfRatio_nat {n : Nat} (hn : n ≠ 0) : exponentOfRatio n 1 = n.log2 - 52 := by
  have hlow := Nat.log2_self_le hn
  have hone : Nat.log2 1 = 0 := by decide
  -- the exponent that is guessed from the bits is not lowered: the significand has all of its own
  have hbits : ¬ (scale n 1 (n.log2 - 52)).1 / (scale n 1 (n.log2 - 52)).2 < 2 ^ 52 := by
    unfold scale
    by_cases h : (0 : Int) ≤ (n.log2 : Int) - 52
    · have hpow : 2 ^ 52 * 2 ^ ((n.log2 : Int) - 52).toNat = 2 ^ n.log2 := by
        rw [← Nat.pow_add]
        congr 1
        omega
      rw [if_pos h, Nat.not_lt]
      show 2 ^ 52 ≤ n / (1 * 2 ^ _)
      rw [Nat.one_mul, Nat.le_div_iff_mul_le (Nat.two_pow_pos _), hpow]
      exact hlow
    · have hpow : 2 ^ n.log2 * 2 ^ (-((n.log2 : Int) - 52)).toNat = 2 ^ 52 := by
        rw [← Nat.pow_add]
        congr 1
        omega
      rw [if_neg h, Nat.not_lt]
      show 2 ^ 52 ≤ n * 2 ^ _ / 1
      rw [Nat.div_one, ← hpow]
      exact Nat.mul_le_mul_right _ hlow
  have hguess : (n.log2 : Int) - (Nat.log2 1 : Nat) - 52 = n.log2 - 52 := by
    rw [hone]
    omega
  have hexponent : exponentOfRatio n 1 =
      max (if (scale n 1 (n.log2 - 52)).1 / (scale n 1 (n.log2 - 52)).2 < 2 ^ 52
        then (n.log2 : Int) - 52 - 1 else n.log2 - 52) (-1074) := by
    rw [← hguess]
    rfl
  rw [hexponent, if_neg hbits]
  omega

/-- The magnitude of a number of at least one, bounded by that of infinity. -/
theorem magnitudeOfNat_eq {n : Nat} (hn : n ≠ 0) : magnitudeOfNat n =
    min ((n.log2 + 1022) * 2 ^ 52 + significandOfNat n) infinityMagnitude := by
  have hshift : ((n.log2 : Int) - 52 + 1074).toNat = n.log2 + 1022 := by omega
  unfold magnitudeOfNat magnitudeOfRatio
  rw [if_neg hn, exponentOfRatio_nat hn, ← hshift]
  rfl

/-- The significand has 53 bits, or is the power of two above them. -/
theorem significandOfNat_bounds {n : Nat} (hn : n ≠ 0) :
    2 ^ 52 ≤ significandOfNat n ∧ significandOfNat n ≤ 2 ^ 53 ∧
      (n.log2 ≤ 52 → significandOfNat n < 2 ^ 53) := by
  have hlow := Nat.log2_self_le hn
  have hhigh : n < 2 ^ (n.log2 + 1) := Nat.lt_log2_self
  rw [significandOfNat_eq]
  by_cases h : n.log2 ≤ 52
  · -- the leading bit is shifted to the 53rd place
    have hpow : 2 ^ n.log2 * 2 ^ (52 - n.log2) = 2 ^ 52 := by
      rw [← Nat.pow_add]
      congr 1
      omega
    have hleast : 2 ^ 52 ≤ n * 2 ^ (52 - n.log2) := by
      rw [← hpow]
      exact Nat.mul_le_mul_right _ hlow
    have hmost : n * 2 ^ (52 - n.log2) < 2 ^ 53 := by
      have hnext : 2 ^ (n.log2 + 1) * 2 ^ (52 - n.log2) = 2 ^ 53 := by
        rw [← Nat.pow_add]
        congr 1
        omega
      rw [← hnext]
      exact Nat.mul_lt_mul_of_pos_right hhigh (Nat.two_pow_pos _)
    rw [if_pos h]
    exact ⟨hleast, Nat.le_of_lt hmost, fun _ => hmost⟩
  · -- the quotient has 53 bits, and rounding adds one at most
    obtain ⟨hfloor, hceil⟩ := roundHalfEven_bounds n (2 ^ (n.log2 - 52))
    have hleast : 2 ^ 52 ≤ n / 2 ^ (n.log2 - 52) := by
      rw [Nat.le_div_iff_mul_le (Nat.two_pow_pos _), ← Nat.pow_add]
      have hexp : 52 + (n.log2 - 52) = n.log2 := by omega
      rwa [hexp]
    have hmost : n / 2 ^ (n.log2 - 52) < 2 ^ 53 := by
      rw [Nat.div_lt_iff_lt_mul (Nat.two_pow_pos _), ← Nat.pow_add]
      have hexp : 53 + (n.log2 - 52) = n.log2 + 1 := by omega
      rwa [hexp]
    rw [if_neg h]
    exact ⟨by omega, by omega, fun hle => absurd hle h⟩

/-- Of two numbers with as many bits, the greater one has no lesser significand. -/
theorem significandOfNat_mono {m n : Nat} (hlog : m.log2 = n.log2) (h : m ≤ n) :
    significandOfNat m ≤ significandOfNat n := by
  rw [significandOfNat_eq, significandOfNat_eq, hlog]
  split
  · exact Nat.mul_le_mul_right _ h
  · exact roundHalfEven_mono (Nat.two_pow_pos _) h

theorem log2_mono {m n : Nat} (hm : m ≠ 0) (h : m ≤ n) : m.log2 ≤ n.log2 := by
  have hn : n ≠ 0 := by omega
  rw [Nat.le_log2 hn]
  exact Nat.le_trans (Nat.log2_self_le hm) h

/-- A greater number never has a lesser magnitude. -/
theorem magnitudeOfNat_mono {m n : Nat} (h : m ≤ n) : magnitudeOfNat m ≤ magnitudeOfNat n := by
  by_cases hm : m = 0
  · subst hm
    exact Nat.zero_le _
  have hn : n ≠ 0 := by omega
  obtain ⟨-, hmost, -⟩ := significandOfNat_bounds hm
  obtain ⟨hleast, -, -⟩ := significandOfNat_bounds hn
  rw [magnitudeOfNat_eq hm, magnitudeOfNat_eq hn]
  rcases Nat.lt_or_eq_of_le (log2_mono hm h) with hlt | heq
  · -- the significand of the lesser one carries into the next exponent at most
    omega
  · have := significandOfNat_mono heq h
    omega

/-- Up to 2 ^ 53, a greater number has a greater magnitude. -/
theorem magnitudeOfNat_strict {m n : Nat} (h : m < n) (hn : n ≤ 2 ^ 53) :
    magnitudeOfNat m < magnitudeOfNat n := by
  have hne : n ≠ 0 := by omega
  have hlog : n.log2 ≤ 53 := by
    by_contra hlt
    have := Nat.log2_self_le hne
    have hpow : 2 ^ 54 ≤ 2 ^ n.log2 := Nat.pow_le_pow_right (by decide) (by omega)
    omega
  obtain ⟨hleast, hmost, -⟩ := significandOfNat_bounds hne
  rw [magnitudeOfNat_eq hne]
  unfold infinityMagnitude
  by_cases hm : m = 0
  · subst hm
    show 0 < _
    omega
  -- the lesser number has 53 bits at most, so none of them is rounded away
  have hsmall : m.log2 ≤ 52 := by
    have hlt : m < 2 ^ 53 := by omega
    have := (Nat.log2_lt hm).2 hlt
    omega
  obtain ⟨-, -, hbelow⟩ := significandOfNat_bounds hm
  have hbelow := hbelow hsmall
  rw [magnitudeOfNat_eq hm]
  unfold infinityMagnitude
  rcases Nat.lt_or_eq_of_le (log2_mono hm h.le) with hlt | heq
  · omega
  · -- with as many bits, both numbers are shifted by as many places
    have hshift : significandOfNat m < significandOfNat n := by
      rw [significandOfNat_eq, significandOfNat_eq, if_pos hsmall, if_pos (heq ▸ hsmall), heq]
      exact Nat.mul_lt_mul_of_pos_right h (Nat.two_pow_pos _)
    omega

/-! ## Signed integers -/

theorem magnitudeOfNat_le (n : Nat) : magnitudeOfNat n ≤ infinityMagnitude := by
  by_cases hn : n = 0
  · subst hn
    exact Nat.zero_le _
  · rw [magnitudeOfNat_eq hn]
    exact Nat.min_le_right _ _

theorem magnitude_ofMagnitude (negative : Bool) {m : Nat} (h : m < 2 ^ 63) :
    (ofMagnitude negative m).magnitude = m := by
  unfold ofMagnitude magnitude
  cases negative <;> simp only [UInt64.toNat_ofNat'] <;> simp <;> omega

theorem isNegative_ofMagnitude (negative : Bool) {m : Nat} (h : m < 2 ^ 63) :
    (ofMagnitude negative m).isNegative = negative := by
  unfold ofMagnitude isNegative
  cases negative <;> simp only [UInt64.toNat_ofNat'] <;> simp <;> omega

theorem magnitude_ofInt (n : Int) : (ofInt n).magnitude = magnitudeOfNat n.natAbs :=
  magnitude_ofMagnitude _ (Nat.lt_of_le_of_lt (magnitudeOfNat_le _) (by decide))

theorem isNegative_ofInt (n : Int) : (ofInt n).isNegative = decide (n < 0) :=
  isNegative_ofMagnitude _ (Nat.lt_of_le_of_lt (magnitudeOfNat_le n.natAbs) (by decide))

theorem orderKey_ofInt (n : Int) : (ofInt n).orderKey =
    if n < 0 then -(magnitudeOfNat n.natAbs : Int) - 1 else magnitudeOfNat n.natAbs := by
  unfold orderKey
  rw [magnitude_ofInt, isNegative_ofInt]
  simp

/-- Doubles are told apart by their places in the order. -/
theorem orderKey_inj {x y : Binary64} : x.orderKey = y.orderKey ↔ x = y := by
  refine ⟨fun h => ?_, fun h => h ▸ rfl⟩
  unfold orderKey at h
  -- negative numbers, and the negative zero, have negative keys
  have hsign : x.isNegative = y.isNegative := by
    by_contra hne
    cases hx : x.isNegative <;> cases hy : y.isNegative <;> simp [hx, hy] at h hne <;> omega
  have hmagnitude : x.magnitude = y.magnitude := by
    rw [hsign] at h
    split at h <;> omega
  rw [← ofMagnitude_magnitude x, ← ofMagnitude_magnitude y, hsign, hmagnitude]

theorem orderKey_ofInt_mono {m n : Int} (h : m ≤ n) : (ofInt m).orderKey ≤ (ofInt n).orderKey := by
  rw [orderKey_ofInt, orderKey_ofInt]
  by_cases hm : m < 0
  · by_cases hn : n < 0
    · have := magnitudeOfNat_mono (show n.natAbs ≤ m.natAbs by omega)
      simp only [hm, hn, if_true]
      omega
    · simp only [hm, hn, if_true, if_false]
      omega
  · have := magnitudeOfNat_mono (show m.natAbs ≤ n.natAbs by omega)
    rw [if_neg hm, if_neg (by omega)]
    omega

/-- Two integers are ordered as numbers are, unless they share a double. -/
theorem compareTotal_ofInt (m n : Int) : (ofInt m).compareTotal (ofInt n) =
    if ofInt m = ofInt n then .eq else compare m n := by
  unfold compareTotal
  split
  · next heq => exact compare_eq_iff_eq.2 (congrArg orderKey heq)
  · next hne =>
    rw [← orderKey_inj] at hne
    rcases Int.lt_trichotomy m n with hlt | heq | hgt
    · have := orderKey_ofInt_mono hlt.le
      rw [compare_lt_iff_lt.2 (by omega), compare_lt_iff_lt.2 hlt]
    · exact absurd (heq ▸ rfl) hne
    · have := orderKey_ofInt_mono hgt.le
      rw [compare_gt_iff_gt.2 (by omega), compare_gt_iff_gt.2 hgt]

/-- An integer other than zero is not rounded to zero. -/
theorem magnitude_ofInt_eq_zero {n : Int} : (ofInt n).magnitude = 0 ↔ n = 0 := by
  rw [magnitude_ofInt]
  refine ⟨fun h => ?_, fun h => h ▸ rfl⟩
  by_contra hne
  have hone := magnitudeOfNat_strict Nat.zero_lt_one (by decide)
  have := magnitudeOfNat_mono (show 1 ≤ n.natAbs by omega)
  omega

/-- Integers are the same number as doubles exactly if they share a double. -/
theorem sameNumber_ofInt (m n : Int) :
    (ofInt m).sameNumber (ofInt n) = true ↔ ofInt m = ofInt n := by
  have hnumber : ∀ k : Int, (ofInt k).isNaN = false := by
    intro k
    unfold isNaN
    rw [magnitude_ofInt, decide_eq_false_iff_not, Nat.not_lt]
    exact magnitudeOfNat_le _
  unfold sameNumber
  simp only [hnumber, Bool.not_false, Bool.true_and, Bool.or_eq_true, Bool.and_eq_true,
    beq_iff_eq, magnitude_ofInt_eq_zero]
  constructor
  · rintro (h | ⟨rfl, rfl⟩)
    · exact h
    · rfl
  · exact .inl

/-! ## Integers with a double of their own -/

/-- Two integers do not share a double, unless they are one. -/
def Separate (m n : Int) : Prop :=
  ofInt m = ofInt n → m = n

instance (m n : Int) : Decidable (Separate m n) :=
  inferInstanceAs (Decidable (_ → _))

theorem separate_iff {m n : Int} : Separate m n ↔ (ofInt m = ofInt n ↔ m = n) :=
  ⟨fun h => ⟨h, fun heq => heq ▸ rfl⟩, fun h => h.1⟩

/-- Up to 2 ^ 53 on either side of zero, every integer has a double of its own. -/
theorem separate_of_natAbs_le {m n : Int} (hm : m.natAbs ≤ 2 ^ 53) (hn : n.natAbs ≤ 2 ^ 53) :
    Separate m n := by
  intro heq
  have hsign : (m < 0 ↔ n < 0) := by
    have := congrArg isNegative heq
    rwa [isNegative_ofInt, isNegative_ofInt, decide_eq_decide] at this
  have hmagnitude : magnitudeOfNat m.natAbs = magnitudeOfNat n.natAbs := by
    rw [← magnitude_ofInt, ← magnitude_ofInt, heq]
  have habs : m.natAbs = n.natAbs := by
    rcases Nat.lt_trichotomy m.natAbs n.natAbs with hlt | habs | hgt
    · have := magnitudeOfNat_strict hlt hn
      omega
    · exact habs
    · have := magnitudeOfNat_strict hgt hm
      omega
  omega

/-- The first integer that shares its double with a lesser one. -/
example : ¬ Separate (2 ^ 53 + 1) (2 ^ 53) := by decide

end Catalog.Binary64
