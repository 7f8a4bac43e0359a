import Catalog.Text.Utf8

/-!
# Characters and their bytes

The decoder reads the bytes of a character as that character, from its start state back to its start
state. So a text is read back from its bytes, both by the reader that replaces what is ill-formed
and by the one that refuses it. Texts are in the order of their bytes.

## Key results

- `Text.decodeFrom_utf8Bytes`: the bytes of one character
- `Text.decodeLossy_flatMap`, `Text.decodeUtf8?_flatMap`: the bytes of a text
- `Text.flatMap_utf8Bytes_lt`: a greater text has greater bytes
-/

namespace Catalog.Text

theorem length_utf8Bytes (c : Char) : (utf8Bytes c).length = c.utf8Size := by
  have hle : ∀ bound : UInt32, c.val ≤ bound ↔ c.toNat ≤ bound.toNat :=
    fun bound => UInt32.le_iff_toNat_le
  simp only [utf8Bytes, Char.utf8Size, hle]
  show List.length _ =
    if c.toNat ≤ 127 then 1 else if c.toNat ≤ 2047 then 2 else if c.toNat ≤ 65535 then 3 else 4
  split
  · rw [if_pos (by omega)]; rfl
  split
  · rw [if_neg (by omega), if_pos (by omega)]; rfl
  split
  · rw [if_neg (by omega), if_neg (by omega), if_pos (by omega)]; rfl
  · rw [if_neg (by omega), if_neg (by omega), if_neg (by omega)]; rfl

theorem decodeFrom_cons (state : DecoderState) (b : UInt8) (bs : List UInt8) :
    decodeFrom state (b :: bs) = (state.step b).2 ++ decodeFrom (state.step b).1 bs := by
  cases state <;> rfl

/-- A lead byte starts a sequence. -/
private theorem decodeFrom_lead {b : UInt8} {lead : Lead} (hb : ¬ b < 0x80)
    (h : Lead.ofByte? b = some lead) (bs : List UInt8) :
    decodeFrom .start (b :: bs) =
      decodeFrom (.inside lead.more lead.low lead.high lead.bits) bs := by
  rw [decodeFrom_cons]
  simp only [DecoderState.step, hb, if_false, h, List.nil_append]

private theorem toNat_toUInt8 {n : Nat} (h : n < 256) : n.toUInt8.toNat = n := by
  rw [Nat.toUInt8_eq, UInt8.toNat_ofNat', Nat.mod_eq_of_lt (by omega)]

/-- Six bits in a continuation byte. -/
private theorem continuation {v : Nat} (hv : v < 64) :
    (0x80 : UInt8) ≤ (0x80 + v).toUInt8 ∧ (0x80 + v).toUInt8 ≤ 0xBF := by
  rw [UInt8.le_iff_toNat_le, UInt8.le_iff_toNat_le, toNat_toUInt8 (by omega)]
  exact ⟨by show 128 ≤ _; omega, by show _ ≤ 191; omega⟩

section

variable {value v : Nat} {low high : UInt8}

private theorem step_inside (hv : v < 64)
    (h : low ≤ (0x80 + v).toUInt8 ∧ (0x80 + v).toUInt8 ≤ high) (more : Nat) :
    DecoderState.step (.inside more low high value) (0x80 + v).toUInt8 =
      if more ≤ 1 then (.start, [some (Char.ofNat (value * 64 + v))])
      else (.inside (more - 1) 0x80 0xBF (value * 64 + v), []) := by
  have hbits : (0x80 + v).toUInt8.toNat - 0x80 = v := by
    rw [toNat_toUInt8 (by omega)]
    omega
  simp only [DecoderState.step, h, and_self, if_true, hbits]

/-- The last byte of a sequence completes the character. -/
private theorem decodeFrom_last (hv : v < 64)
    (h : low ≤ (0x80 + v).toUInt8 ∧ (0x80 + v).toUInt8 ≤ high) (bs : List UInt8) :
    decodeFrom (.inside 1 low high value) ((0x80 + v).toUInt8 :: bs) =
      some (Char.ofNat (value * 64 + v)) :: decodeFrom .start bs := by
  rw [decodeFrom_cons, step_inside hv h, if_pos (Nat.le_refl 1), List.singleton_append]

private theorem decodeFrom_next (hv : v < 64)
    (h : low ≤ (0x80 + v).toUInt8 ∧ (0x80 + v).toUInt8 ≤ high) (more : Nat) (bs : List UInt8) :
    decodeFrom (.inside (more + 2) low high value) ((0x80 + v).toUInt8 :: bs) =
      decodeFrom (.inside (more + 1) 0x80 0xBF (value * 64 + v)) bs := by
  rw [decodeFrom_cons, step_inside hv h, if_neg (by omega), List.nil_append]
  rfl

end

private theorem ofByte?_two {k : Nat} (hlow : 2 ≤ k) (hhigh : k < 32) :
    Lead.ofByte? (0xC0 + k).toUInt8 = some ⟨1, 0x80, 0xBF, k⟩ := by
  have hn := toNat_toUInt8 (n := 0xC0 + k) (by omega)
  have hrange : (0xC2 : UInt8) ≤ (0xC0 + k).toUInt8 ∧ (0xC0 + k).toUInt8 ≤ 0xDF := by
    rw [UInt8.le_iff_toNat_le, UInt8.le_iff_toNat_le, hn]
    exact ⟨by show 194 ≤ _; omega, by show _ ≤ 223; omega⟩
  rw [Lead.ofByte?, if_pos hrange, hn, Nat.add_sub_cancel_left]

/-- The first continuation byte of three is bounded more narrowly where the character would have a
shorter form, and where it would be a surrogate. -/
private theorem ofByte?_three {k s : Nat} (hk : k < 16) (hs : s < 64) (hshort : k = 0 → 32 ≤ s)
    (hsurrogate : k = 13 → s < 32) :
    ∃ low high, Lead.ofByte? (0xE0 + k).toUInt8 = some ⟨2, low, high, k⟩ ∧
      low ≤ (0x80 + s).toUInt8 ∧ (0x80 + s).toUInt8 ≤ high := by
  have hn := toNat_toUInt8 (n := 0xE0 + k) (by omega)
  simp only [UInt8.le_iff_toNat_le, toNat_toUInt8 (n := 0x80 + s) (by omega)]
  by_cases hzero : k = 0
  · subst hzero
    exact ⟨0xA0, 0xBF, rfl, by show 160 ≤ _; omega, by show _ ≤ 191; omega⟩
  by_cases hthirteen : k = 13
  · subst hthirteen
    exact ⟨0x80, 0x9F, rfl, by show 128 ≤ _; omega, by show _ ≤ 159; omega⟩
  refine ⟨0x80, 0xBF, ?_, by show 128 ≤ _; omega, by show _ ≤ 191; omega⟩
  simp only [Lead.ofByte?, UInt8.le_iff_toNat_le, ← UInt8.toNat_inj, hn]
  rw [if_neg (by show ¬ (194 ≤ _ ∧ _ ≤ 223); omega), if_neg (by show ¬ _ = 224; omega),
    if_neg (by show ¬ _ = 237; omega), if_pos (by show 225 ≤ _ ∧ _ ≤ 239; omega),
    Nat.add_sub_cancel_left]

private theorem ofByte?_four {k s : Nat} (hk : k < 5) (hs : s < 64) (hshort : k = 0 → 16 ≤ s)
    (hlast : k = 4 → s < 16) :
    ∃ low high, Lead.ofByte? (0xF0 + k).toUInt8 = some ⟨3, low, high, k⟩ ∧
      low ≤ (0x80 + s).toUInt8 ∧ (0x80 + s).toUInt8 ≤ high := by
  have hn := toNat_toUInt8 (n := 0xF0 + k) (by omega)
  simp only [UInt8.le_iff_toNat_le, toNat_toUInt8 (n := 0x80 + s) (by omega)]
  by_cases hzero : k = 0
  · subst hzero
    exact ⟨0x90, 0xBF, rfl, by show 144 ≤ _; omega, by show _ ≤ 191; omega⟩
  by_cases hfour : k = 4
  · subst hfour
    exact ⟨0x80, 0x8F, rfl, by show 128 ≤ _; omega, by show _ ≤ 143; omega⟩
  refine ⟨0x80, 0xBF, ?_, by show 128 ≤ _; omega, by show _ ≤ 191; omega⟩
  simp only [Lead.ofByte?, UInt8.le_iff_toNat_le, ← UInt8.toNat_inj, hn]
  rw [if_neg (by show ¬ (194 ≤ _ ∧ _ ≤ 223); omega), if_neg (by show ¬ _ = 224; omega),
    if_neg (by show ¬ _ = 237; omega), if_neg (by show ¬ (225 ≤ _ ∧ _ ≤ 239); omega),
    if_neg (by show ¬ _ = 240; omega), if_pos (by show 241 ≤ _ ∧ _ ≤ 243; omega),
    Nat.add_sub_cancel_left]

private theorem not_lt_lead {base k : Nat} (hbase : 0x80 ≤ base) (h : base + k < 256) :
    ¬ (base + k).toUInt8 < 0x80 := by
  rw [UInt8.lt_iff_toNat_lt, toNat_toUInt8 h]
  show ¬ _ < 128
  omega

/-- The bytes of a character are read as the character, and the decoder is where it was. -/
theorem decodeFrom_utf8Bytes (c : Char) (rest : List UInt8) :
    decodeFrom .start (utf8Bytes c ++ rest) = some c :: decodeFrom .start rest := by
  have hchar : Char.ofNat c.toNat = c := Char.ofNat_toNat c
  have hvalid : c.toNat < 0xD800 ∨ (0xDFFF < c.toNat ∧ c.toNat < 0x110000) := c.valid
  unfold utf8Bytes
  generalize c.toNat = n at hchar hvalid
  have hmod (v : Nat) : v % 64 < 64 := Nat.mod_lt v (by decide)
  simp only
  split
  · next h =>
    -- one byte
    have hn := toNat_toUInt8 (n := n) (by omega)
    have hlt : n.toUInt8 < 0x80 := by
      rw [UInt8.lt_iff_toNat_lt, hn]
      exact h
    rw [List.singleton_append, decodeFrom_cons]
    simp only [DecoderState.step, hlt, if_true, hn, hchar, List.singleton_append]
  split
  · next h₁ h₂ =>
    -- two bytes
    have hlead := ofByte?_two (k := n / 64) (by omega) (by omega)
    have hvalue : n / 64 * 64 + n % 64 = n := by omega
    rw [List.cons_append, List.singleton_append,
      decodeFrom_lead (not_lt_lead (by decide) (by omega)) hlead,
      decodeFrom_last (hmod n) (continuation (hmod n)), hvalue, hchar]
  split
  · next h₁ h₂ h₃ =>
    -- three bytes
    obtain ⟨low, high, hlead, hrange⟩ := ofByte?_three (k := n / 4096) (by omega) (hmod (n / 64))
      (by omega) (by omega)
    have hvalue : (n / 4096 * 64 + n / 64 % 64) * 64 + n % 64 = n := by omega
    rw [List.cons_append, List.cons_append, List.singleton_append,
      decodeFrom_lead (not_lt_lead (by decide) (by omega)) hlead,
      decodeFrom_next (hmod (n / 64)) hrange, decodeFrom_last (hmod n) (continuation (hmod n)),
      hvalue, hchar]
  · next h₁ h₂ h₃ =>
    -- four bytes
    obtain ⟨low, high, hlead, hrange⟩ := ofByte?_four (k := n / 262144) (by omega)
      (hmod (n / 4096)) (by omega) (by omega)
    have hvalue : ((n / 262144 * 64 + n / 4096 % 64) * 64 + n / 64 % 64) * 64 + n % 64 = n := by
      omega
    rw [List.cons_append, List.cons_append, List.cons_append, List.singleton_append,
      decodeFrom_lead (not_lt_lead (by decide) (by omega)) hlead,
      decodeFrom_next (hmod (n / 4096)) hrange,
      decodeFrom_next (hmod (n / 64)) (continuation (hmod (n / 64))),
      decodeFrom_last (hmod n) (continuation (hmod n)), hvalue, hchar]

/-- The bytes of a text are read as its characters. -/
theorem decodeFrom_flatMap (cs : List Char) :
    decodeFrom .start (cs.flatMap utf8Bytes) = cs.map some := by
  induction cs with
  | nil => rfl
  | cons c cs ih => rw [List.flatMap_cons, decodeFrom_utf8Bytes, ih, List.map_cons]

theorem decodeLossy_flatMap (cs : List Char) : decodeLossy (cs.flatMap utf8Bytes) = cs := by
  rw [decodeLossy, decodeFrom_flatMap, List.map_map]
  exact List.map_id' cs

theorem decodeUtf8?_flatMap (cs : List Char) : decodeUtf8? (cs.flatMap utf8Bytes) = some cs := by
  rw [decodeUtf8?, decodeFrom_flatMap]
  induction cs with
  | nil => rfl
  | cons c cs ih =>
    rw [List.map_cons, List.mapM_cons, ih]
    rfl

/-! ## The order of texts -/

/-- Of two lists of bytes, the first bytes that differ decide. -/
private theorem bytes_lt {m n : Nat} {as bs : List UInt8} (hm : m < 256) (hn : n < 256)
    (hle : m ≤ n) (htail : m = n → as < bs) : m.toUInt8 :: as < n.toUInt8 :: bs := by
  rw [List.cons_lt_cons_iff, UInt8.lt_iff_toNat_lt, ← UInt8.toNat_inj, toNat_toUInt8 hm,
    toNat_toUInt8 hn]
  rcases Nat.lt_or_eq_of_le hle with hlt | heq
  · exact .inl hlt
  · exact .inr ⟨heq, htail heq⟩

/-- The bytes of a greater character are greater, whatever follows them. -/
theorem utf8Bytes_append_lt {c d : Char} (h : c < d) (as bs : List UInt8) :
    utf8Bytes c ++ as < utf8Bytes d ++ bs := by
  have hlt : c.toNat < d.toNat := h
  have hd : d.toNat < 0xD800 ∨ (0xDFFF < d.toNat ∧ d.toNat < 0x110000) := d.valid
  unfold utf8Bytes
  generalize c.toNat = m at hlt
  generalize d.toNat = n at hlt hd
  simp only
  -- by the number of bytes of the lesser character; the greater one has no fewer
  split
  · split
    · apply bytes_lt <;> omega
    · split
      · apply bytes_lt <;> omega
      · split <;> apply bytes_lt <;> omega
  rw [if_neg (show ¬ n < 128 by omega)]
  split
  · split
    · apply bytes_lt (by omega) (by omega) (by omega)
      intro hlead
      apply bytes_lt <;> omega
    · split <;> apply bytes_lt <;> omega
  rw [if_neg (show ¬ n < 2048 by omega)]
  split
  · split
    · apply bytes_lt (by omega) (by omega) (by omega)
      intro hlead
      apply bytes_lt (by omega) (by omega) (by omega)
      intro hmiddle
      apply bytes_lt <;> omega
    · apply bytes_lt <;> omega
  · rw [if_neg (show ¬ n < 65536 by omega)]
    apply bytes_lt (by omega) (by omega) (by omega)
    intro hlead
    apply bytes_lt (by omega) (by omega) (by omega)
    intro hsecond
    apply bytes_lt (by omega) (by omega) (by omega)
    intro hthird
    apply bytes_lt <;> omega

/-- Texts are in the order of their bytes. -/
theorem flatMap_utf8Bytes_lt {cs ds : List Char} (h : cs < ds) :
    cs.flatMap utf8Bytes < ds.flatMap utf8Bytes := by
  induction cs generalizing ds with
  | nil =>
    cases ds with
    | nil => exact absurd h (List.lt_irrefl [])
    | cons d ds =>
      -- a character has a byte at least
      have hlength := length_utf8Bytes d
      have hpos := d.utf8Size_pos
      cases hbytes : utf8Bytes d with
      | nil => simp [hbytes] at hlength; omega
      | cons b bs => simp [List.flatMap_cons, hbytes]
  | cons c cs ih =>
    cases ds with
    | nil => simp at h
    | cons d ds =>
      rw [List.flatMap_cons, List.flatMap_cons]
      rcases List.cons_lt_cons_iff.1 h with hlt | ⟨rfl, htail⟩
      · exact utf8Bytes_append_lt hlt _ _
      · exact List.append_left_lt (ih htail)
end Catalog.Text
