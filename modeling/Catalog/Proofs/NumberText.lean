import Catalog.Json.Parser
import Catalog.Json.Printer
import Catalog.Proofs.Digits
import Catalog.Proofs.Pieces
import Catalog.Proofs.ShortestDigits

/-!
# Numbers as text

A number literal is a run of digits with an optional fraction and an optional power of ten. Its
reading is that of its parts, and what the printer writes for an integer or a finite double reads
back as the same number.

## Key results

- `Json.readNumber?_literal`: a literal with a fraction or a power of ten reads as a double
- `Binary64.render_spec`: the text of digits is a literal of the number that they write
- `JsonNumber.readNumber?_render`: numbers are read back
-/

namespace Catalog

/-! ## Digits without leading zeros -/

namespace Numeral

/-- The first digit of a positive number is no zero. -/
theorem head?_toDigits_ne {n : Nat} (hn : n ≠ 0) : (Nat.toDigits 10 n).head? ≠ some '0' := by
  induction n using Nat.strong_induction_on with
  | _ n ih =>
    rcases Nat.lt_or_ge n 10 with h | h
    · have hdigit : ∀ d < 10, d ≠ 0 → d.digitChar ≠ '0' := by decide
      rw [Nat.toDigits_of_lt_base h, List.head?_cons, Ne, Option.some.injEq]
      exact hdigit n h hn
    · -- the first digit is that of the number without its last one
      rw [Nat.toDigits_of_base_le (by decide) h, List.head?_append_of_ne_nil _ Nat.toDigits_ne_nil]
      exact ih (n / 10) (by omega) (by omega)

/-- Digits that make the whole part of a literal: at least one, and no zero before others. -/
structure IsWhole (ds : List Char) : Prop where
  /-- All are digits. -/
  digits : ∀ c ∈ ds, Text.isAsciiDigit c = true
  /-- There is one. -/
  ne_nil : ds ≠ []
  /-- A zero stands alone. -/
  lead : ds.length = 1 ∨ ds.head? ≠ some '0'

/-- A whole part passes the reader's check. -/
theorem IsWhole.check {ds : List Char} (h : IsWhole ds) :
    (ds.isEmpty || (ds.length != 1 && ds.head? == some '0')) = false := by
  rw [Bool.or_eq_false_iff, List.isEmpty_eq_false_iff, Bool.and_eq_false_iff, bne_eq_false_iff_eq,
    beq_eq_false_iff_ne]
  exact ⟨h.ne_nil, h.lead⟩

/-- Digits with another one than zero in front make a whole part. -/
theorem isWhole_cons {c : Char} {cs : List Char} (hc : c ≠ '0')
    (hdigits : ∀ d ∈ c :: cs, Text.isAsciiDigit d = true) : IsWhole (c :: cs) := by
  refine ⟨hdigits, List.cons_ne_nil c cs, .inr ?_⟩
  rw [List.head?_cons, Ne, Option.some.injEq]
  exact hc

/-- The digits of a number make a whole part. -/
theorem isWhole_toDigits (n : Nat) : IsWhole (Nat.toDigits 10 n) := by
  refine ⟨fun c hc => isAsciiDigit_of_mem_toDigits hc, Nat.toDigits_ne_nil, ?_⟩
  rcases Nat.eq_zero_or_pos n with rfl | hpos
  · exact .inl rfl
  · exact .inr (head?_toDigits_ne hpos.ne')

end Numeral

/-! ## Reading a literal -/

namespace Json

/-- A text that does not go on with a number in front of it. -/
def EndsNumber (rest : List Char) : Prop :=
  ∀ c ∈ rest.head?, Text.isAsciiDigit c = false ∧ c ≠ '.' ∧ c ≠ 'e' ∧ c ≠ 'E'

/-- The text of a fraction: nothing without digits. -/
def fractionText : List Char → List Char
  | [] => []
  | c :: cs => '.' :: c :: cs

theorem fractionText_of_ne_nil {ds : List Char} (h : ds ≠ []) : fractionText ds = '.' :: ds := by
  cases ds with
  | nil => exact absurd rfl h
  | cons c cs => rfl

/-- The text of a power of ten, with its sign. -/
def powerText : Option Int → List Char
  | none => []
  | some e => 'e' :: (if e < 0 then '-' else '+') :: Nat.toDigits 10 e.natAbs

theorem spanDigits_append {ds rest : List Char} (hds : ∀ c ∈ ds, Text.isAsciiDigit c = true)
    (hrest : ∀ c ∈ rest.head?, Text.isAsciiDigit c = false) :
    spanDigits (ds ++ rest) = (ds, rest) := by
  rw [spanDigits, Text.takeWhile_append_stop hds hrest, Text.dropWhile_append_stop hds hrest]

section Literals

variable {whole fraction rest : List Char} {power : Option Int}

/-- What follows the whole part of a literal does not go on with its digits. -/
private theorem head?_powerText (hrest : EndsNumber rest) :
    ∀ c ∈ (powerText power ++ rest).head?, Text.isAsciiDigit c = false ∧ c ≠ '.' := by
  cases power with
  | none => exact fun c hc => ⟨(hrest c hc).1, (hrest c hc).2.1⟩
  | some e =>
    rintro c ⟨⟩
    decide

theorem readFraction?_append (hfraction : ∀ c ∈ fraction, Text.isAsciiDigit c = true)
    (hrest : ∀ c ∈ rest.head?, Text.isAsciiDigit c = false ∧ c ≠ '.') :
    readFraction? (fractionText fraction ++ rest) = some (fraction, rest) := by
  have hspan := spanDigits_append hfraction fun c hc => (hrest c hc).1
  cases fraction with
  | nil =>
    -- what follows is no point
    rw [fractionText, List.nil_append, readFraction?]
    rintro rest' rfl
    exact (hrest '.' rfl).2 rfl
  | cons f fs =>
    rw [fractionText, List.cons_append, readFraction?, hspan]
    rfl

theorem readPower?_append (hrest : EndsNumber rest) :
    readPower? (powerText power ++ rest) = some (power, rest) := by
  cases power with
  | none =>
    cases rest with
    | nil => rfl
    | cons c cs =>
      obtain ⟨-, -, hsmall, hlarge⟩ := hrest c rfl
      exact if_neg (not_or.2 ⟨hsmall, hlarge⟩)
  | some e =>
    have hdigits : ∀ c ∈ Nat.toDigits 10 e.natAbs, Text.isAsciiDigit c = true :=
      fun c hc => Numeral.isAsciiDigit_of_mem_toDigits hc
    have hspan := spanDigits_append hdigits fun c hc => (hrest c hc).1
    have hne : (Nat.toDigits 10 e.natAbs).isEmpty = false :=
      List.isEmpty_eq_false_iff.2 Nat.toDigits_ne_nil
    have hvalue : Numeral.ofDigits (Nat.toDigits 10 e.natAbs) = e.natAbs := by
      rw [Numeral.ofDigits_eq hdigits, Nat.ofDigitChars_ten_toDigits]
    rcases Int.lt_or_le e 0 with hneg | hpos
    · rw [powerText, if_pos hneg, List.cons_append, List.cons_append, readPower?]
      simp only [hspan, hne, hvalue, true_or, if_true, Bool.false_eq_true, if_false]
      rw [Int.ofNat_natAbs_of_nonpos hneg.le, neg_neg]
    · rw [powerText, if_neg (not_lt.2 hpos), List.cons_append, List.cons_append, readPower?]
      simp only [hspan, hne, hvalue, true_or, if_true, Bool.false_eq_true, if_false]
      rw [Int.natAbs_of_nonneg hpos]

/-- A literal without fraction and power of ten is an integer literal. -/
theorem readNumber?_whole (negative : Bool) (hwhole : Numeral.IsWhole whole)
    (hrest : EndsNumber rest) :
    readNumber? negative (whole ++ rest) =
      (ofIntLiteral? negative (Numeral.ofDigits whole)).map fun n => (n, rest) := by
  have hfraction : readFraction? (fractionText [] ++ rest) = some ([], rest) :=
    readFraction?_append (fun _ hc => absurd hc List.not_mem_nil) fun c hc =>
      ⟨(hrest c hc).1, (hrest c hc).2.1⟩
  have hpower : readPower? (powerText none ++ rest) = some (none, rest) := readPower?_append hrest
  rw [fractionText, List.nil_append] at hfraction
  rw [powerText, List.nil_append] at hpower
  simp only [readNumber?, spanDigits_append hwhole.digits fun c hc => (hrest c hc).1,
    hwhole.check, hfraction, hpower]
  rfl

end Literals

/-- A number literal with a fraction or a power of ten, part by part. -/
structure Literal where
  /-- The digits in front of the point. -/
  whole : List Char
  /-- The digits behind it. -/
  fraction : List Char
  /-- The power of ten. -/
  power : Option Int
  /-- The whole part has no needless zeros. -/
  isWhole : Numeral.IsWhole whole
  /-- The fraction has digits only. -/
  isFraction : ∀ c ∈ fraction, Text.isAsciiDigit c = true
  /-- It is no integer literal. -/
  parts : fraction ≠ [] ∨ power ≠ none

namespace Literal

/-- The text of a literal. -/
def text (l : Literal) : List Char :=
  l.whole ++ (fractionText l.fraction ++ powerText l.power)

/-- All digits as one integer. -/
def digits (l : Literal) : Nat :=
  Numeral.ofDigits (l.whole ++ l.fraction)

/-- The power of ten that the last digit counts. -/
def exponent (l : Literal) : Int :=
  l.power.getD 0 - l.fraction.length

theorem digits_eq (l : Literal) :
    l.digits = Nat.ofDigitChars 10 l.fraction (Nat.ofDigitChars 10 l.whole 0) := by
  rw [digits, Numeral.ofDigits_eq, Nat.ofDigitChars_append]
  intro c hc
  rcases List.mem_append.1 hc with hc | hc
  · exact l.isWhole.digits c hc
  · exact l.isFraction c hc

/-- The reader does not take a literal for an integer. -/
theorem parts_check (l : Literal) : (l.fraction.isEmpty && l.power.isNone) = false := by
  rw [Bool.and_eq_false_iff, List.isEmpty_eq_false_iff, Option.isNone_eq_false_iff,
    Option.isSome_iff_ne_none]
  exact l.parts

end Literal

/-- A literal with a fraction or a power of ten reads as the double nearest to it. -/
theorem readNumber?_literal (negative : Bool) (l : Literal) {rest : List Char}
    (hrest : EndsNumber rest) {x : Binary64}
    (hx : Binary64.ofDecimal negative l.digits l.exponent = x) (hfinite : x.isFinite = true) :
    readNumber? negative (l.text ++ rest) = some (.double x, rest) := by
  have hpower : ∀ c ∈ (powerText l.power ++ rest).head?,
      Text.isAsciiDigit c = false ∧ c ≠ '.' := head?_powerText hrest
  have hhead : ∀ c ∈ (fractionText l.fraction ++ (powerText l.power ++ rest)).head?,
      Text.isAsciiDigit c = false := by
    cases l.fraction with
    | nil => exact fun c hc => (hpower c hc).1
    | cons f fs =>
      rintro c ⟨⟩
      rfl
  rw [Literal.digits, Literal.exponent] at hx
  rw [Literal.text, List.append_assoc, List.append_assoc]
  simp only [readNumber?, spanDigits_append l.isWhole.digits hhead, l.isWhole.check,
    readFraction?_append l.isFraction hpower, readPower?_append hrest, l.parts_check, hx, hfinite]
  rfl

end Json

/-! ## The text of a double -/

namespace Binary64

open Json

/-- Zeros are stripped off the front as long as there is one. -/
theorem stripZeros_spec (cs : List Char) :
    ∃ n, cs = List.replicate n '0' ++ stripZeros cs := by
  induction cs with
  | nil => exact ⟨0, rfl⟩
  | cons c cs ih =>
    by_cases hc : c = '0'
    · obtain ⟨n, hn⟩ := ih
      refine ⟨n + 1, ?_⟩
      rw [hc, stripZeros, List.replicate_succ, List.cons_append, ← hn]
    · refine ⟨0, ?_⟩
      rw [stripZeros, List.replicate_zero, List.nil_append]
      rintro rest ⟨⟩
      exact hc rfl

/-- The digits of a positive number without the zeros at their end: the first is no zero. -/
theorem toDigits_eq_stripped {n : Nat} (hn : n ≠ 0) :
    ∃ c cs zeros, (stripZeros (Nat.toDigits 10 n).reverse).reverse = c :: cs ∧
      Nat.toDigits 10 n = c :: cs ++ List.replicate zeros '0' ∧ c ≠ '0' := by
  obtain ⟨zeros, hzeros⟩ := stripZeros_spec (Nat.toDigits 10 n).reverse
  have hsplit : Nat.toDigits 10 n =
      (stripZeros (Nat.toDigits 10 n).reverse).reverse ++ List.replicate zeros '0' := by
    have := congrArg List.reverse hzeros
    rwa [List.reverse_reverse, List.reverse_append, List.reverse_replicate] at this
  cases hds : (stripZeros (Nat.toDigits 10 n).reverse).reverse with
  | nil =>
    -- zeros alone write zero
    rw [hds, List.nil_append] at hsplit
    have hvalue := Nat.ofDigitChars_ten_toDigits (n := n)
    rw [hsplit, Nat.ofDigitChars_replicate_zero, Nat.mul_zero] at hvalue
    exact absurd hvalue.symm hn
  | cons c cs =>
    rw [hds] at hsplit
    refine ⟨c, cs, zeros, rfl, hsplit, ?_⟩
    rintro rfl
    refine Numeral.head?_toDigits_ne hn ?_
    rw [hsplit]
    rfl

/-- A literal with these digits, perhaps with further zeros behind, of which the first one stands for
`10 ^ leading`. -/
def HasDigits (l : Literal) (ds : List Char) (leading : Int) : Prop :=
  ∃ zeros : Nat, l.digits = 10 ^ zeros * Nat.ofDigitChars 10 ds 0 ∧
    l.exponent = leading + 1 - ds.length - zeros

theorem isAsciiDigit_of_mem_zeros {n : Nat} : ∀ x ∈ List.replicate n '0',
    Text.isAsciiDigit x = true := by
  intro x hx
  rw [List.eq_of_mem_replicate hx]
  rfl

/-- Below one, zeros stand between the point and the digits. -/
theorem exists_literal_below {ds : List Char} {leading : Int} (hne : ds ≠ [])
    (hdigits : ∀ x ∈ ds, Text.isAsciiDigit x = true) (hneg : leading < 0) :
    ∃ l : Literal, ['0', '.'] ++ List.replicate (-leading - 1).toNat '0' ++ ds = l.text ∧
      HasDigits l ds leading := by
  have hfraction : List.replicate (-leading - 1).toNat '0' ++ ds ≠ [] :=
    List.append_ne_nil_of_right_ne_nil _ hne
  let l : Literal :=
    { whole := ['0']
      fraction := List.replicate (-leading - 1).toNat '0' ++ ds
      power := none
      isWhole := Numeral.isWhole_toDigits 0
      isFraction := List.forall_mem_append.2 ⟨isAsciiDigit_of_mem_zeros, hdigits⟩
      parts := .inl hfraction }
  refine ⟨l, ?_, 0, ?_, ?_⟩
  · have htext : fractionText l.fraction = '.' :: l.fraction := fractionText_of_ne_nil hfraction
    rw [Literal.text, htext]
    show _ = '0' :: ('.' :: (_ ++ ds) ++ [])
    rw [List.append_nil]
    rfl
  · rw [l.digits_eq]
    show Nat.ofDigitChars 10 (_ ++ ds) 0 = _
    rw [Nat.ofDigitChars_append, Nat.ofDigitChars_replicate_zero, Nat.mul_zero, Nat.pow_zero,
      Nat.one_mul]
  · show (0 : Int) - (List.length (_ ++ ds) : Nat) = _
    rw [List.length_append, List.length_replicate]
    omega

/-- In a whole number, zeros stand between the digits and the point. -/
theorem exists_literal_whole {c : Char} {cs : List Char} {leading : Int}
    (hdigits : ∀ x ∈ c :: cs, Text.isAsciiDigit x = true) (hc : c ≠ '0')
    (hle : ((c :: cs).length : Int) ≤ leading + 1) :
    ∃ l : Literal, c :: cs ++ List.replicate (leading + 1 - (c :: cs).length).toNat '0' ++
      ['.', '0'] = l.text ∧ HasDigits l (c :: cs) leading := by
  have hall : ∀ x ∈ c :: (cs ++ List.replicate (leading + 1 - (c :: cs).length).toNat '0'),
      Text.isAsciiDigit x = true :=
    List.forall_mem_append.2 ⟨hdigits, isAsciiDigit_of_mem_zeros⟩
  let l : Literal :=
    { whole := c :: (cs ++ List.replicate (leading + 1 - (c :: cs).length).toNat '0')
      fraction := ['0']
      power := none
      isWhole := Numeral.isWhole_cons hc hall
      isFraction := isAsciiDigit_of_mem_zeros (n := 1)
      parts := .inl (List.cons_ne_nil _ _) }
  refine ⟨l, rfl, (leading + 1 - (c :: cs).length).toNat + 1, ?_, ?_⟩
  · rw [l.digits_eq]
    show Nat.ofDigitChars 10 ['0'] (Nat.ofDigitChars 10 (c :: cs ++ _) 0) = _
    rw [Nat.ofDigitChars_append, Nat.ofDigitChars_replicate_zero, Nat.ofDigitChars_cons,
      Nat.ofDigitChars_nil, Nat.pow_succ', Nat.mul_assoc]
    rfl
  · show (0 : Int) - (1 : Nat) = _
    omega

/-- In any other number that is not too large, the point stands among the digits. -/
theorem exists_literal_among {c : Char} {cs : List Char} {leading : Int}
    (hdigits : ∀ x ∈ c :: cs, Text.isAsciiDigit x = true) (hc : c ≠ '0') (hpos : 0 ≤ leading)
    (hlt : leading + 1 < (c :: cs).length) :
    ∃ l : Literal, (c :: cs).take (leading + 1).toNat ++
      '.' :: (c :: cs).drop (leading + 1).toNat = l.text ∧ HasDigits l (c :: cs) leading := by
  obtain ⟨n, rfl⟩ := Int.eq_ofNat_of_zero_le hpos
  have hcount : ((n : Int) + 1).toNat = n + 1 := by omega
  have hlength : (c :: cs).length = cs.length + 1 := rfl
  have hdrop : cs.drop n ≠ [] := by
    rw [Ne, List.drop_eq_nil_iff]
    omega
  have htake : ∀ x ∈ c :: cs.take n, Text.isAsciiDigit x = true :=
    fun x hx => hdigits x (List.mem_of_mem_take (i := n + 1) hx)
  let l : Literal :=
    { whole := c :: cs.take n
      fraction := cs.drop n
      power := none
      isWhole := Numeral.isWhole_cons hc htake
      isFraction := fun x hx => hdigits x (List.mem_cons_of_mem c (List.mem_of_mem_drop hx))
      parts := .inl hdrop }
  refine ⟨l, ?_, 0, ?_, ?_⟩
  · have htext : fractionText l.fraction = '.' :: l.fraction := fractionText_of_ne_nil hdrop
    rw [hcount, Literal.text, htext, List.take_succ_cons, List.drop_succ_cons]
    show _ = _ ++ ('.' :: cs.drop n ++ [])
    rw [List.append_nil]
  · rw [l.digits_eq, ← Nat.ofDigitChars_append, Nat.pow_zero, Nat.one_mul]
    show Nat.ofDigitChars 10 (c :: (cs.take n ++ cs.drop n)) 0 = _
    rw [List.take_append_drop]
  · show (0 : Int) - ((cs.drop n).length : Nat) = _
    rw [List.length_drop]
    omega

/-- In a very large or a very small number one digit stands in front of the point, and the power of
ten is written. -/
theorem exists_literal_power {c : Char} {cs : List Char} (leading : Int)
    (hdigits : ∀ x ∈ c :: cs, Text.isAsciiDigit x = true) (hc : c ≠ '0') :
    ∃ l : Literal, c :: fractionText cs ++ 'e' :: (if leading < 0 then '-' else '+') ::
      Nat.toDigits 10 leading.natAbs = l.text ∧ HasDigits l (c :: cs) leading := by
  let l : Literal :=
    { whole := [c]
      fraction := cs
      power := some leading
      isWhole := Numeral.isWhole_cons hc fun x hx => by
        rw [List.mem_singleton.1 hx]
        exact hdigits c List.mem_cons_self
      isFraction := fun x hx => hdigits x (List.mem_cons_of_mem c hx)
      parts := .inr (Option.some_ne_none _) }
  refine ⟨l, List.append_assoc [c] _ _, 0, ?_, ?_⟩
  · rw [l.digits_eq, ← Nat.ofDigitChars_append, Nat.pow_zero, Nat.one_mul]
    rfl
  · show leading - (cs.length : Nat) = _
    rw [List.length_cons]
    omega

/-- The text of digits is a literal of them. -/
theorem exists_literal {c : Char} {cs : List Char} {d : Digits}
    (hds : (stripZeros (Nat.toDigits 10 d.digits).reverse).reverse = c :: cs)
    (hdigits : ∀ x ∈ c :: cs, Text.isAsciiDigit x = true) (hc : c ≠ '0') :
    ∃ l : Literal, jsonLayout.render d = l.text ∧ HasDigits l (c :: cs) d.leading := by
  -- the layout has four forms, by the power of ten of the first digit
  simp only [Layout.render, hds]
  split
  · split
    · next hneg => exact exists_literal_below (List.cons_ne_nil c cs) hdigits hneg
    next hpos =>
    split
    · next hle => exact exists_literal_whole hdigits hc hle
    · next hgt => exact exists_literal_among hdigits hc (not_lt.1 hpos) (not_le.1 hgt)
  · have hsign : (if d.leading < 0 then jsonLayout.negative else jsonLayout.positive).toList =
        ['e', if d.leading < 0 then '-' else '+'] := by
      split <;> rfl
    obtain ⟨l, htext, hvalue⟩ := exists_literal_power d.leading hdigits hc
    refine ⟨l, ?_, hvalue⟩
    rw [hsign, ← htext]
    cases cs with
    | nil => rfl
    | cons f fs => exact List.append_assoc (c :: '.' :: f :: fs) _ _

/-- The text of digits is a literal of the number that they write. -/
theorem render_spec {d : Digits} {count : Nat} (hlow : 10 ^ count ≤ d.digits)
    (hhigh : d.digits < 10 ^ (count + 1)) :
    ∃ l : Literal, jsonLayout.render d = l.text ∧ l.digits ≠ 0 ∧
      (l.digits : ℚ) * 10 ^ l.exponent = d.digits * 10 ^ (d.leading - count) := by
  have hten : ∀ k, 0 < 10 ^ k := fun k => Nat.pow_pos (by decide)
  obtain ⟨c, cs, stripped, hds, hsplit, hc⟩ := toDigits_eq_stripped ((hten count).trans_le hlow).ne'
  have hdigits : ∀ x ∈ c :: cs, Text.isAsciiDigit x = true := fun x hx =>
    Numeral.isAsciiDigit_of_mem_toDigits (by rw [hsplit]; exact List.mem_append_left _ hx)
  obtain ⟨l, htext, zeros, hvalue, hexponent⟩ := exists_literal hds hdigits hc
  -- there are as many digits as the bounds tell
  have hlength : (c :: cs).length + stripped = count + 1 := by
    have hle := (Nat.length_toDigits_le_iff (by decide) (Nat.succ_pos count)).2 hhigh
    have hlt : ¬ (Nat.toDigits 10 d.digits).length ≤ count := by
      intro h
      rcases Nat.eq_zero_or_pos count with rfl | hpos
      · exact absurd Nat.length_toDigits_pos (Nat.not_lt.2 h)
      · exact absurd ((Nat.length_toDigits_le_iff (by decide) hpos).1 h) (Nat.not_lt.2 hlow)
    rw [hsplit, List.length_append, List.length_replicate] at hle hlt
    omega
  have hwritten : d.digits = 10 ^ stripped * Nat.ofDigitChars 10 (c :: cs) 0 := by
    have := Nat.ofDigitChars_ten_toDigits (n := d.digits)
    rw [hsplit, Nat.ofDigitChars_append, Nat.ofDigitChars_replicate_zero] at this
    exact this.symm
  generalize Nat.ofDigitChars 10 (c :: cs) 0 = m at hvalue hwritten
  refine ⟨l, htext, ?_, ?_⟩
  · rintro hzero
    have hm : m = 0 := (Nat.mul_eq_zero.1 (hvalue.symm.trans hzero)).resolve_left (hten zeros).ne'
    rw [hwritten, hm, Nat.mul_zero] at hlow
    exact absurd (hten count) (Nat.not_lt.2 hlow)
  · -- zeros behind the digits move the power of ten only
    have hshift : ∀ (k : Nat) (e : Int), ((10 ^ k * m : Nat) : ℚ) * 10 ^ (e - k) = m * 10 ^ e := by
      intro k e
      rw [zpow_sub₀ (by norm_num), zpow_natCast]
      push_cast
      field_simp
    have hsame : d.leading - count = d.leading + 1 - (c :: cs).length - stripped := by omega
    rw [hvalue, hexponent, hshift, hwritten, hsame, hshift]

/-- The text of a finite double reads as this double. -/
theorem readNumber?_format {x : Binary64} (hx : x.isFinite = true) {rest : List Char}
    (hrest : EndsNumber rest) :
    ∃ body, jsonLayout.format x = (if x.isNegative then '-' :: body else body) ∧
      readNumber? x.isNegative (body ++ rest) = some (.double x, rest) := by
  refine ⟨_, rfl, ?_⟩
  by_cases hmagnitude : x.magnitude = 0
  · -- both zeros have a text of their own
    let l : Literal :=
      { whole := ['0']
        fraction := ['0']
        power := none
        isWhole := Numeral.isWhole_toDigits 0
        isFraction := fun x hx => by rw [List.mem_singleton.1 hx]; rfl
        parts := .inl (List.cons_ne_nil _ _) }
    have hzero : ofDecimal x.isNegative l.digits l.exponent = x := by
      have hself := ofMagnitude_magnitude x
      rw [hmagnitude] at hself
      exact hself
    rw [if_pos hmagnitude]
    exact readNumber?_literal _ l hrest hzero hx
  · rw [if_neg hmagnitude]
    -- the bits of a double without significand are those of zero
    have hsignificand : x.significand ≠ 0 := by
      intro hzero
      have hleast : ¬ -1074 < x.exponent := fun h => by
        have := le_significand h
        omega
      have := x.le_exponent
      have := x.magnitude_eq
      omega
    obtain ⟨count, hlow, hhigh, hnear⟩ := shortestDigits_spec hx hsignificand
    obtain ⟨l, htext, hne, hvalue⟩ := render_spec hlow hhigh
    rw [← hvalue] at hnear
    rw [htext]
    exact readNumber?_literal _ l hrest (ofDecimal_of_near hx hsignificand hne hnear) hx

end Binary64

/-! ## Numbers -/

namespace JsonNumber

open Json

/-- A number that is read as it is written: an integer of 64 bits, signed or not, or a finite
double. -/
def Readable : JsonNumber → Prop
  | int n => -2 ^ 63 ≤ n ∧ n < 2 ^ 64
  | double x => x.isFinite = true

/-- The integer literal of an integer of 64 bits. -/
theorem ofIntLiteral?_natAbs {n : Int} (hlow : -2 ^ 63 ≤ n) (hhigh : n < 2 ^ 64) :
    ofIntLiteral? (decide (n < 0)) n.natAbs = some (.int n) := by
  rw [ofIntLiteral?]
  by_cases hneg : n < 0
  · rw [if_pos (decide_eq_true hneg), if_neg (by omega), Int.ofNat_natAbs_of_nonpos hneg.le,
      neg_neg]
  · rw [if_neg (by simpa using hneg), if_pos (by omega), Int.natAbs_of_nonneg (not_lt.1 hneg)]

/-- A number that can be read is written as an optional minus sign and a text that reads as it. -/
theorem readNumber?_render {n : JsonNumber} (h : n.Readable) {rest : List Char}
    (hrest : EndsNumber rest) :
    ∃ negative body, n.render = (if negative = true then '-' :: body else body) ∧
      readNumber? negative (body ++ rest) = some (n, rest) := by
  cases n with
  | int n =>
    refine ⟨decide (n < 0), Nat.toDigits 10 n.natAbs, ?_, ?_⟩
    · rw [render, intText]
      by_cases hneg : n < 0
      · rw [if_pos hneg, if_pos (decide_eq_true hneg)]
        rfl
      · rw [if_neg hneg, if_neg (by simpa using hneg)]
        rfl
    · rw [readNumber?_whole _ (Numeral.isWhole_toDigits _) hrest,
        Numeral.ofDigits_eq fun c hc => Numeral.isAsciiDigit_of_mem_toDigits hc,
        Nat.ofDigitChars_ten_toDigits, ofIntLiteral?_natAbs h.1 h.2]
      rfl
  | double x =>
    obtain ⟨body, hformat, hread⟩ := Binary64.readNumber?_format h hrest
    refine ⟨x.isNegative, body, ?_, hread⟩
    rw [render, if_pos (show x.isFinite = true from h), hformat]

end JsonNumber

/-- A text that is read as a number starts with a digit. -/
theorem Json.exists_digit_of_readNumber? {negative : Bool} {cs : List Char}
    {r : JsonNumber × List Char} (h : readNumber? negative cs = some r) :
    ∃ c rest, cs = c :: rest ∧ Text.isAsciiDigit c = true := by
  cases cs with
  | nil => cases h
  | cons c rest =>
    cases hc : Text.isAsciiDigit c with
    | true => exact ⟨c, rest, rfl, hc⟩
    | false =>
      -- no whole part is read
      have hspan : spanDigits (c :: rest) = ([], c :: rest) := by
        rw [spanDigits, List.takeWhile_cons, List.dropWhile_cons, hc]
        rfl
      simp only [readNumber?, hspan] at h
      cases h

end Catalog
