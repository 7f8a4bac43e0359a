import Catalog.Numeral

/-!
# Decimal digits

Numbers are written by the decimal digits of the core library and read digit by digit. Reading gives
back what was written, if it is within the bound.

## Key results

- `Numeral.readDigits_eq_ok`, `Numeral.readDigits_eq_ok_iff`: digits read as their value
- `Numeral.readUInt64_toDigits`: a number of 64 bits is read back
-/

namespace Catalog

/-! ## Single digits -/

theorem Text.isAsciiDigit_iff (c : Char) :
    Text.isAsciiDigit c = true ↔ 48 ≤ c.toNat ∧ c.toNat ≤ 57 := by
  rw [isAsciiDigit, Bool.and_eq_true, decide_eq_true_eq, decide_eq_true_eq]
  exact Iff.rfl

/-- A digit has its distance from zero as its value. -/
theorem Text.digitValue?_eq {c : Char} (h : Text.isAsciiDigit c = true) :
    Text.digitValue? c = some (c.toNat - 48) := by
  rw [isAsciiDigit, Bool.and_eq_true, decide_eq_true_eq, decide_eq_true_eq] at h
  rw [digitValue?, if_pos h]

theorem Text.isAsciiDigit_of_digitValue? {c : Char} {d : Nat} (h : digitValue? c = some d) :
    isAsciiDigit c = true := by
  rw [digitValue?] at h
  split at h
  · next hc => simpa [isAsciiDigit] using hc
  · cases h

namespace Numeral

/-- What the core library writes are digits. -/
theorem isAsciiDigit_of_mem_toDigits {n : Nat} {c : Char} (h : c ∈ Nat.toDigits 10 n) :
    Text.isAsciiDigit c = true := by
  have hdigit := Nat.isDigit_of_mem_toDigits (by decide) (by decide) h
  rw [Char.isDigit, Bool.and_eq_true, decide_eq_true_eq, decide_eq_true_eq] at hdigit
  exact (Text.isAsciiDigit_iff c).2 hdigit

/-! ## Runs of digits -/

/-- Further digits never make a number less. -/
theorem le_ofDigitChars (cs : List Char) (acc : Nat) : acc ≤ Nat.ofDigitChars 10 cs acc := by
  induction cs generalizing acc with
  | nil => exact Nat.le_of_eq Nat.ofDigitChars_nil.symm
  | cons c cs ih =>
    rw [Nat.ofDigitChars_cons]
    have := ih (10 * acc + (c.toNat - '0'.toNat))
    omega

/-- Digits within the bound read as their value. -/
theorem readDigits_eq_ok {max : Nat} (above : NumeralError) {acc : Nat} {cs : List Char}
    (hdigits : ∀ c ∈ cs, Text.isAsciiDigit c = true) (hmax : Nat.ofDigitChars 10 cs acc ≤ max) :
    readDigits max above acc cs = .ok (Nat.ofDigitChars 10 cs acc) := by
  induction cs generalizing acc with
  | nil => rw [readDigits, Nat.ofDigitChars_nil]
  | cons c cs ih =>
    have hvalue := Text.digitValue?_eq (hdigits c List.mem_cons_self)
    have hstep : acc * 10 + (c.toNat - 48) = 10 * acc + (c.toNat - '0'.toNat) := by
      rw [Nat.mul_comm]
      rfl
    rw [Nat.ofDigitChars_cons, ← hstep] at hmax ⊢
    have hle := le_ofDigitChars cs (acc * 10 + (c.toNat - 48))
    simp only [readDigits, hvalue]
    -- the number so far is below the bound, for further digits do not make it less
    rw [if_neg (by omega)]
    exact ih (fun d hd => hdigits d (List.mem_cons_of_mem c hd)) hmax

/-- Nothing else reads: from a number within the bound on, what is read are digits that keep it
there. -/
theorem readDigits_eq_ok_iff {max n : Nat} {above : NumeralError} {acc : Nat} {cs : List Char}
    (hacc : acc ≤ max) : readDigits max above acc cs = .ok n ↔
      (∀ c ∈ cs, Text.isAsciiDigit c = true) ∧ Nat.ofDigitChars 10 cs acc = n ∧ n ≤ max := by
  constructor
  · intro h
    induction cs generalizing acc with
    | nil =>
      obtain rfl := Except.ok.inj h
      exact ⟨fun _ hc => absurd hc List.not_mem_nil, Nat.ofDigitChars_nil, hacc⟩
    | cons c cs ih =>
      rw [readDigits] at h
      split at h
      · cases h
      next d hd =>
      split at h
      · cases h
      next hmax =>
      have hdigit := Text.isAsciiDigit_of_digitValue? hd
      obtain ⟨hdigits, hvalue, hn⟩ := ih (Nat.not_lt.1 hmax) h
      obtain rfl : c.toNat - 48 = d := Option.some.inj ((Text.digitValue?_eq hdigit).symm.trans hd)
      refine ⟨List.forall_mem_cons.2 ⟨hdigit, hdigits⟩, ?_, hn⟩
      rw [Nat.ofDigitChars_cons, Nat.mul_comm 10 acc]
      exact hvalue
  · rintro ⟨hdigits, rfl, hmax⟩
    exact readDigits_eq_ok above hdigits hmax

/-- Digits without a bound read as their value, too. -/
theorem ofDigits_eq {cs : List Char} (hdigits : ∀ c ∈ cs, Text.isAsciiDigit c = true) :
    ofDigits cs = Nat.ofDigitChars 10 cs 0 := by
  rw [ofDigits, Nat.ofDigitChars_eq_foldl]
  generalize 0 = acc
  induction cs generalizing acc with
  | nil => rfl
  | cons c cs ih =>
    rw [List.foldl_cons, List.foldl_cons, Text.digitValue?_eq (hdigits c List.mem_cons_self)]
    have hstep : acc * 10 + (c.toNat - 48) = 10 * acc + (c.toNat - '0'.toNat) := by
      rw [Nat.mul_comm]
      rfl
    show List.foldl _ (acc * 10 + (c.toNat - 48)) cs = _
    rw [hstep]
    exact ih (fun d hd => hdigits d (List.mem_cons_of_mem c hd)) _

/-! ## Numbers -/

/-- A natural number is read from its first digit on. -/
theorem readNat_of_digits (max : Nat) {cs : List Char} (hne : cs ≠ [])
    (hdigits : ∀ c ∈ cs, Text.isAsciiDigit c = true) :
    readNat max cs = readDigits max .tooLarge 0 cs := by
  cases cs with
  | nil => exact absurd rfl hne
  | cons c cs =>
    -- the first digit is no plus sign
    have hplus : c ≠ '+' := by
      rintro rfl
      exact absurd (hdigits '+' List.mem_cons_self) (by decide)
    rw [readNat]
    · exact fun h => nomatch h
    · rintro ⟨⟩
      exact hplus rfl
    · rintro cs' ⟨⟩
      exact hplus rfl

/-- A natural number within the bound is read back. -/
theorem readNat_toDigits {max n : Nat} (h : n ≤ max) :
    readNat max (Nat.toDigits 10 n) = .ok n := by
  have hdigits : ∀ c ∈ Nat.toDigits 10 n, Text.isAsciiDigit c = true :=
    fun c hc => isAsciiDigit_of_mem_toDigits hc
  rw [readNat_of_digits max Nat.toDigits_ne_nil hdigits,
    readDigits_eq_ok .tooLarge hdigits (by rwa [Nat.ofDigitChars_ten_toDigits]),
    Nat.ofDigitChars_ten_toDigits]

/-- A number of 64 bits is read back. -/
theorem readUInt64_toDigits (n : UInt64) : readUInt64 (Nat.toDigits 10 n.toNat) = .ok n := by
  rw [readUInt64, readNat_toDigits (Nat.le_sub_one_of_lt n.toNat_lt)]
  show Except.ok (UInt64.ofNat n.toNat) = .ok n
  rw [UInt64.ofNat_toNat]

end Numeral

end Catalog
