import Catalog.Proofs.UnescapedText
import Catalog.Url.Parser

/-!
# Texts encoded again

Encoding a text again changes nothing, for what the first encoding has written is not encoded. Nor
does it make a dot segment of what was none: a dot is not encoded, and the escapes of all other
characters are not those of a dot.

## Key results

- `Percent.mem_encode`: what an encoded text is made of
- `Percent.encode_encode`: encoding is idempotent
- `Url.isSingleDot_encode`, `Url.isDoubleDot_encode`: an encoded text is no dot segment if the text
  is none
-/

namespace Catalog

/-- What a table of the ASCII characters says of each holds of every ASCII character. -/
theorem Text.of_ascii {p : Char → Prop} (h : ∀ n ∈ List.range 0x80, p (Char.ofNat n)) {c : Char}
    (hc : c.toNat < 0x80) : p c := by
  have hrow := h c.toNat (List.mem_range.2 hc)
  rwa [Char.ofNat_toNat] at hrow

/-! ## Encoded texts -/

namespace Percent

variable {reserved : Char → Bool}

/-- An encoded text is made of escapes and of the characters that are not encoded. -/
theorem mem_encode {c : Char} {cs : List Char} (h : c ∈ encode reserved cs) :
    isEscapeChar c = true ∨ (c ∈ cs ∧ c.toNat < 0x80 ∧ reserved c = false) := by
  obtain ⟨d, hd, hc⟩ := List.mem_flatMap.1 h
  split at hc
  · next hplain =>
    obtain rfl := List.mem_singleton.1 hc
    rw [Bool.and_eq_true, decide_eq_true_eq, Bool.not_eq_true'] at hplain
    exact .inr ⟨hd, hplain⟩
  · exact .inl ((escapes_flatMap _).isEscapeChar c hc)

theorem toNat_lt_of_isEscapeChar {c : Char} (h : isEscapeChar c = true) : c.toNat < 0x80 := by
  cases isEscapeChar_iff.1 h with
  | inl h => subst h; decide
  | inr h => omega

/-- The characters of escapes are encoded nowhere in an address. -/
theorem inUserInfo_of_isEscapeChar {c : Char} (h : isEscapeChar c = true) :
    inUserInfo c = false := by
  have hall : ∀ n ∈ List.range 0x80, isEscapeChar (Char.ofNat n) = true →
      inUserInfo (Char.ofNat n) = false := by decide +kernel
  exact Text.of_ascii (p := fun c => isEscapeChar c = true → inUserInfo c = false) hall
    (toNat_lt_of_isEscapeChar h) h

theorem inPath_of_isEscapeChar {c : Char} (h : isEscapeChar c = true) : inPath c = false := by
  have hinfo := inUserInfo_of_isEscapeChar h
  rw [inUserInfo, Bool.or_eq_false_iff] at hinfo
  exact hinfo.1

/-- Where the characters of escapes are not encoded, encoding again changes nothing. -/
theorem encode_encode (hreserved : ∀ c, isEscapeChar c = true → reserved c = false)
    (cs : List Char) : encode reserved (encode reserved cs) = encode reserved cs := by
  refine encode_eq_self_iff.2 fun c hc => ?_
  cases mem_encode hc with
  | inl hescape => exact ⟨toNat_lt_of_isEscapeChar hescape, hreserved c hescape⟩
  | inr hplain => exact hplain.2

end Percent

namespace Url

/-! ## Dot segments -/

/-- So many dots in small letters, each as itself or as an escape. -/
inductive Dots : Nat → List Char → Prop where
  | nil : Dots 0 []
  | dot {n : Nat} {cs : List Char} (rest : Dots n cs) : Dots (n + 1) ('.' :: cs)
  | escape {n : Nat} {cs : List Char} (rest : Dots n cs) : Dots (n + 1) ('%' :: '2' :: 'e' :: cs)

/-- The dot segments of one dot. -/
theorem isSingleDot_iff {segment : List Char} :
    isSingleDot segment = true ↔ Dots 1 (Text.lowerAscii segment) := by
  simp only [isSingleDot, decide_eq_true_eq]
  generalize Text.lowerAscii segment = word
  constructor
  · intro h
    simp only [List.mem_cons, List.not_mem_nil, or_false] at h
    cases h with
    | inl h => rw [h]; exact .dot .nil
    | inr h => rw [h]; exact .escape .nil
  · intro h
    cases h with
    | dot rest => cases rest; simp
    | escape rest => cases rest; simp

/-- The dot segments of two dots. -/
theorem isDoubleDot_iff {segment : List Char} :
    isDoubleDot segment = true ↔ Dots 2 (Text.lowerAscii segment) := by
  simp only [isDoubleDot, decide_eq_true_eq]
  generalize Text.lowerAscii segment = word
  constructor
  · intro h
    simp only [List.mem_cons, List.not_mem_nil, or_false] at h
    rcases h with h | h | h | h
    · rw [h]; exact .dot (.dot .nil)
    · rw [h]; exact .dot (.escape .nil)
    · rw [h]; exact .escape (.dot .nil)
    · rw [h]; exact .escape (.escape .nil)
  · intro h
    cases h with
    | dot rest =>
      cases rest with
      | dot rest => cases rest; simp
      | escape rest => cases rest; simp
    | escape rest =>
      cases rest with
      | dot rest => cases rest; simp
      | escape rest => cases rest; simp

section Encoded

variable {reserved : Char → Bool}

theorem eq_of_toLower_upperHexDigit {n : Nat} (h : n < 16) :
    ((Text.upperHexDigit n).toLower = '2' → n = 2) ∧
      ((Text.upperHexDigit n).toLower = 'e' → n = 14) := by
  have hall : ∀ n ∈ List.range 16, ((Text.upperHexDigit n).toLower = '2' → n = 2) ∧
      ((Text.upperHexDigit n).toLower = 'e' → n = 14) := by decide
  exact hall n (List.mem_range.2 h)

/-- Only a dot has a dot as its first byte. -/
theorem eq_dot_of_utf8Bytes {c : Char} {b : UInt8} {bs : List UInt8}
    (h : Text.utf8Bytes c = b :: bs) (hb : b.toNat = 46) : c = '.' := by
  have hvalid : c.toNat < 0xD800 ∨ (0xDFFF < c.toNat ∧ c.toNat < 0x110000) := c.valid
  have hsmall : ∀ n : Nat, n < 256 → n.toUInt8.toNat = n := fun n hn => by
    rw [Nat.toUInt8_eq, UInt8.toNat_ofNat', Nat.mod_eq_of_lt (by omega)]
  have hc : c.toNat = 46 := by
    unfold Text.utf8Bytes at h
    simp only at h
    -- the leads of longer characters are no ASCII
    split at h
    · rw [List.cons_eq_cons] at h
      rw [← h.1, hsmall _ (by omega)] at hb
      exact hb
    split at h
    · rw [List.cons_eq_cons] at h
      rw [← h.1, hsmall _ (by omega)] at hb
      omega
    split at h
    · rw [List.cons_eq_cons] at h
      rw [← h.1, hsmall _ (by omega)] at hb
      omega
    · rw [List.cons_eq_cons] at h
      rw [← h.1, hsmall _ (by omega)] at hb
      omega
  rw [← Char.ofNat_toNat c, hc]

/-- In small letters, an encoded text goes on with a character of the text, or with an escape other
than that of a dot. -/
theorem lowerAscii_encode_cons (hdot : reserved '.' = false) (c : Char) (cs : List Char) :
    Text.lowerAscii (Percent.encode reserved (c :: cs)) =
        c.toLower :: Text.lowerAscii (Percent.encode reserved cs) ∨
      ∃ high low rest, Text.lowerAscii (Percent.encode reserved (c :: cs)) =
        '%' :: high :: low :: rest ∧ ¬ (high = '2' ∧ low = 'e') := by
  by_cases hplain : c.toNat < 0x80 ∧ reserved c = false
  · refine .inl ?_
    simp [Percent.encode, Text.lowerAscii, hplain]
  · refine .inr ?_
    have hencode : Percent.encode reserved (c :: cs) =
        (Text.utf8Bytes c).flatMap Percent.encodeByte ++ Percent.encode reserved cs := by
      simpa [Percent.encode] using fun hascii hc => absurd ⟨hascii, hc⟩ hplain
    cases hbytes : Text.utf8Bytes c with
    | nil =>
      have hlength := Text.length_utf8Bytes c
      have hpos := c.utf8Size_pos
      rw [hbytes, List.length_nil] at hlength
      omega
    | cons b bs =>
      have hb := b.toNat_lt
      refine ⟨(Text.upperHexDigit (b.toNat / 16)).toLower, (Text.upperHexDigit (b.toNat % 16)).toLower,
        _, by rw [hencode, hbytes]; rfl, fun hdigits => ?_⟩
      -- these are the digits of the byte 46, with which only a dot starts
      have hhigh := (eq_of_toLower_upperHexDigit (by omega)).1 hdigits.1
      have hlow := (eq_of_toLower_upperHexDigit (by omega)).2 hdigits.2
      obtain rfl := eq_dot_of_utf8Bytes hbytes (by omega)
      exact hplain ⟨by decide, hdot⟩

/-- A character other than the percent sign is written for itself only. -/
theorem exists_of_lowerAscii_encode (hdot : reserved '.' = false) {d : Char} (hd : d ≠ '%')
    {cs rest : List Char} (h : Text.lowerAscii (Percent.encode reserved cs) = d :: rest) :
    ∃ c cs', cs = c :: cs' ∧ c.toLower = d ∧
      Text.lowerAscii (Percent.encode reserved cs') = rest := by
  cases cs with
  | nil => cases h
  | cons c cs =>
    cases lowerAscii_encode_cons hdot c cs with
    | inl hplain =>
      rw [hplain, List.cons_eq_cons] at h
      exact ⟨c, cs, rfl, h⟩
    | inr hescaped =>
      obtain ⟨high, low, rest', hescaped, -⟩ := hescaped
      rw [hescaped, List.cons_eq_cons] at h
      exact absurd h.1.symm hd

/-- An encoded text is made of dots only if the text is. -/
theorem dots_of_encode (hdot : reserved '.' = false) {n : Nat} {cs : List Char}
    (h : Dots n (Text.lowerAscii (Percent.encode reserved cs))) : Dots n (Text.lowerAscii cs) := by
  generalize hword : Text.lowerAscii (Percent.encode reserved cs) = word at h
  induction h generalizing cs with
  | nil =>
    cases cs with
    | nil => exact .nil
    | cons c cs =>
      have hlength := Percent.length_le_encode reserved (c :: cs)
      simp [Text.lowerAscii] at hword
      simp [hword] at hlength
  | dot _ ih =>
    obtain ⟨c, cs, rfl, hc, hrest⟩ := exists_of_lowerAscii_encode hdot (by decide) hword
    show Dots _ (c.toLower :: Text.lowerAscii cs)
    rw [hc]
    exact .dot (ih hrest)
  | escape _ ih =>
    cases cs with
    | nil => cases hword
    | cons c cs =>
      cases lowerAscii_encode_cons hdot c cs with
      | inl hplain =>
        -- the escape stands in the text itself
        rw [hplain, List.cons_eq_cons] at hword
        obtain ⟨two, cs, rfl, htwo, hrest⟩ :=
          exists_of_lowerAscii_encode hdot (by decide) hword.2
        obtain ⟨e, cs, rfl, he, hrest⟩ := exists_of_lowerAscii_encode hdot (by decide) hrest
        show Dots _ (c.toLower :: two.toLower :: e.toLower :: Text.lowerAscii cs)
        rw [hword.1, htwo, he]
        exact .escape (ih hrest)
      | inr hescaped =>
        obtain ⟨high, low, rest, hescaped, hother⟩ := hescaped
        rw [hescaped] at hword
        simp only [List.cons_eq_cons] at hword
        exact absurd ⟨hword.2.1, hword.2.2.1⟩ hother

/-- A text that is no dot segment does not become one by being encoded. -/
theorem isSingleDot_encode (hdot : reserved '.' = false) {segment : List Char}
    (h : isSingleDot segment = false) :
    isSingleDot (Percent.encode reserved segment) = false := by
  rw [← Bool.not_eq_true, isSingleDot_iff] at h ⊢
  exact fun hdots => h (dots_of_encode hdot hdots)

theorem isDoubleDot_encode (hdot : reserved '.' = false) {segment : List Char}
    (h : isDoubleDot segment = false) :
    isDoubleDot (Percent.encode reserved segment) = false := by
  rw [← Bool.not_eq_true, isDoubleDot_iff] at h ⊢
  exact fun hdots => h (dots_of_encode hdot hdots)

end Encoded

end Url

end Catalog
