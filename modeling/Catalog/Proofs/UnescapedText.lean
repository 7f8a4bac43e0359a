import Catalog.Proofs.EncodedText
import Catalog.Proofs.Traversal

/-!
# Texts that stand for themselves

A text that is put into an address as it is, without being encoded, is decoded all the same. It is
read back exactly if it holds no escape: an escape stands for at most one character, and nothing
else makes up for the other two that it is written with. In the other direction, an encoder leaves a
text alone exactly if it reserves none of its characters.

## Key results

- `Text.length_le_of_decodeUtf8?`: a text has no more characters than its bytes have leads
- `Percent.decode_front_iff`: the texts that are read back as they are
- `Percent.encode_eq_self_iff`: the texts that are written as they are
-/

namespace Catalog

/-! ## Lead bytes -/

namespace Text

/-- A byte that starts a character. -/
def isLead (b : UInt8) : Bool :=
  b < 0x80 || 0xC0 ≤ b

/-- How many characters have started but not ended. -/
def DecoderState.pending : DecoderState → Nat
  | .start => 0
  | .inside .. => 1

theorem Lead.isLead_of_ofByte? {b : UInt8} {lead : Lead} (h : Lead.ofByte? b = some lead) :
    isLead b = true := by
  have hhigh : 0xC0 ≤ b := by
    by_contra hlow
    rw [UInt8.le_iff_toNat_le] at hlow
    have hb : b.toNat < 192 := Nat.not_le.1 hlow
    unfold Lead.ofByte? at h
    simp only [UInt8.le_iff_toNat_le, ← UInt8.toNat_inj, UInt8.reduceToNat] at h
    repeat rw [if_neg (by omega)] at h
    cases h
  simp [isLead, hhigh]

/-- A byte completes or opens a character if it is a lead, and may complete one that is open. -/
theorem DecoderState.length_step_le {state : DecoderState} {b : UInt8}
    (h : none ∉ (state.step b).2) :
    (state.step b).2.length + (state.step b).1.pending ≤ [b].countP isLead + state.pending := by
  -- at the start, only a lead is no error
  have hfresh : ∀ b : UInt8, none ∉ (DecoderState.start.step b).2 →
      (DecoderState.start.step b).2.length + (DecoderState.start.step b).1.pending ≤
        [b].countP isLead := by
    intro b h
    unfold step at h ⊢
    by_cases hascii : b < 0x80
    · simp [hascii, isLead, DecoderState.pending]
    · cases hlead : Lead.ofByte? b with
      | none => simp [hascii, hlead] at h
      | some lead => simp [hascii, Lead.isLead_of_ofByte? hlead, DecoderState.pending]
  cases state with
  | start => exact hfresh b h
  | inside more low high value =>
    unfold step at h ⊢
    simp only at h ⊢
    by_cases hrange : low ≤ b ∧ b ≤ high
    · -- the open character is completed, or stays open
      rw [if_pos hrange]
      split <;> simp [DecoderState.pending]
    · rw [if_neg hrange] at h
      simp at h

theorem length_le_of_decodeFrom {bytes : List UInt8} {state : DecoderState}
    (h : none ∉ decodeFrom state bytes) :
    (decodeFrom state bytes).length ≤ bytes.countP isLead + state.pending := by
  induction bytes generalizing state with
  | nil =>
    cases state with
    | start => exact Nat.zero_le _
    | inside => exact absurd List.mem_cons_self h
  | cons b bs ih =>
    rw [decodeFrom_cons, List.mem_append, not_or] at h
    have hstep := DecoderState.length_step_le h.1
    have hrest := ih h.2
    rw [decodeFrom_cons, List.length_append, ← List.singleton_append, List.countP_append]
    omega

/-- Every character of a text that is read has a lead byte of its own. -/
theorem length_le_of_decodeUtf8? {bytes : List UInt8} {cs : List Char}
    (h : decodeUtf8? bytes = some cs) : cs.length ≤ bytes.countP isLead := by
  have hread : decodeFrom .start bytes = cs.map some := by
    rw [← List.forall₂_eq_eq_eq, List.forall₂_map_right_iff]
    exact (mapM_eq_some_iff id _ cs).1 h
  have hnone : none ∉ decodeFrom .start bytes := by
    rw [hread]
    simp
  have hle := length_le_of_decodeFrom hnone
  rwa [hread, List.length_map] at hle

theorem isLead_toUInt8 {n : Nat} (h : n < 256) :
    isLead n.toUInt8 = decide (n < 0x80 ∨ 0xC0 ≤ n) := by
  have hn : n.toUInt8.toNat = n := by
    rw [Nat.toUInt8_eq, UInt8.toNat_ofNat', Nat.mod_eq_of_lt (by omega)]
  simp [isLead, UInt8.lt_iff_toNat_lt, UInt8.le_iff_toNat_le, hn, Bool.decide_or]

/-- The bytes of a character have one lead. -/
theorem countP_utf8Bytes (c : Char) : (utf8Bytes c).countP isLead = 1 := by
  have hvalid : c.toNat < 0xD800 ∨ (0xDFFF < c.toNat ∧ c.toNat < 0x110000) := c.valid
  have hmore : ∀ n : Nat, isLead (0x80 + n % 64).toUInt8 = false := fun n => by
    rw [isLead_toUInt8 (by omega)]
    exact decide_eq_false (by omega)
  have hlead : ∀ n : Nat, n < 256 → n < 0x80 ∨ 0xC0 ≤ n → isLead n.toUInt8 = true := by
    intro n hbyte hrange
    rw [isLead_toUInt8 hbyte]
    exact decide_eq_true hrange
  unfold utf8Bytes
  simp only
  -- one to four bytes
  split
  · simp only [List.countP_cons, List.countP_nil, hlead c.toNat (by omega) (by omega), if_true]
  split
  · simp only [List.countP_cons, List.countP_nil, hmore, Bool.false_eq_true, if_false,
      hlead (0xC0 + c.toNat / 64) (by omega) (by omega), if_true]
  split
  · simp only [List.countP_cons, List.countP_nil, hmore, Bool.false_eq_true, if_false,
      hlead (0xE0 + c.toNat / 4096) (by omega) (by omega), if_true]
  · simp only [List.countP_cons, List.countP_nil, hmore, Bool.false_eq_true, if_false,
      hlead (0xF0 + c.toNat / 262144) (by omega) (by omega), if_true]

/-! ## Small letters -/

/-- A character is its own small form, or one of the 26 capitals. -/
theorem toLower_eq_or (c : Char) :
    c.toLower = c ∨ ∃ k ∈ List.range 26, Char.ofNat (65 + k) = c := by
  by_cases hcapital : 65 ≤ c.toNat ∧ c.toNat ≤ 90
  · refine .inr ⟨c.toNat - 65, List.mem_range.2 (by omega), ?_⟩
    rw [Nat.add_sub_cancel' hcapital.1, Char.ofNat_toNat]
  · refine .inl (dif_neg fun h => hcapital ⟨?_, ?_⟩)
    · exact UInt32.le_iff_toNat_le.1 h.1
    · exact UInt32.le_iff_toNat_le.1 h.2

/-- Only letters are the small form of another character. -/
theorem toLower_eq_iff {c d : Char} (hd : isAsciiLetter d = false) : c.toLower = d ↔ c = d := by
  rcases toLower_eq_or c with hsame | ⟨k, hk, rfl⟩
  · rw [hsame]
  · have hletters : ∀ k ∈ List.range 26, isAsciiLetter (Char.ofNat (65 + k)).toLower = true ∧
        isAsciiLetter (Char.ofNat (65 + k)) = true := by decide
    obtain ⟨hlower, hcapital⟩ := hletters k hk
    refine iff_of_false ?_ ?_ <;> rintro rfl
    · rw [hlower] at hd
      cases hd
    · rw [hcapital] at hd
      cases hd

theorem toLower_toLower (c : Char) : c.toLower.toLower = c.toLower := by
  cases toLower_eq_or c with
  | inl hsame => rw [hsame, hsame]
  | inr hcapital =>
    obtain ⟨k, hk, rfl⟩ := hcapital
    revert k
    decide

theorem lowerAscii_lowerAscii (cs : List Char) : lowerAscii (lowerAscii cs) = lowerAscii cs := by
  rw [lowerAscii, lowerAscii, List.map_map]
  exact List.map_congr_left fun c _ => toLower_toLower c

theorem isSome_hexValue?_toLower (c : Char) :
    (hexValue? c.toLower).isSome = (hexValue? c).isSome := by
  rcases toLower_eq_or c with hsame | ⟨k, hk, rfl⟩
  · rw [hsame]
  · revert k
    decide

end Text

/-! ## Escapes -/

namespace Percent

/-- A percent sign and two hexadecimal digits. -/
def startsEscape : List Char → Bool
  | '%' :: high :: low :: _ => (Text.hexValue? high).isSome && (Text.hexValue? low).isSome
  | _ => false

/-- Somewhere in the text there is an escape. -/
def hasEscape (cs : List Char) : Bool :=
  cs.tails.any startsEscape

theorem hasEscape_cons (c : Char) (cs : List Char) :
    hasEscape (c :: cs) = (startsEscape (c :: cs) || hasEscape cs) := by
  simp [hasEscape]

/-- Without escapes, every character is decoded to its own bytes. -/
theorem decode_of_not_hasEscape {cs : List Char} (h : hasEscape cs = false) :
    decode cs = cs.flatMap Text.utf8Bytes := by
  fun_induction decode cs with
  | case1 => rfl
  | case2 a b rest high low ha hb ih =>
    -- an escape in front
    rw [hasEscape_cons, startsEscape, ha, hb] at h
    cases h
  | case3 a b rest hdigits ih =>
    rw [hasEscape_cons, Bool.or_eq_false_iff] at h
    rw [ih h.2, List.flatMap_cons]
    rfl
  | case4 c rest hc ih =>
    rw [hasEscape_cons, Bool.or_eq_false_iff] at h
    rw [ih h.2, List.flatMap_cons]

/-- Each character is decoded to one lead byte at most, and those of an escape to fewer. -/
theorem countP_decode_le (cs : List Char) :
    (decode cs).countP Text.isLead + (hasEscape cs).toNat ≤ cs.length := by
  fun_induction decode cs with
  | case1 => decide
  | case2 a b rest high low ha hb ih =>
    -- three characters become one byte, so that there is room for this escape
    have hone := List.countP_le_length (p := Text.isLead) (l := [(high * 16 + low).toUInt8])
    have hescape := (hasEscape ('%' :: a :: b :: rest)).toNat_le
    rw [← List.singleton_append, List.countP_append]
    simp only [List.length_cons, List.length_nil] at hone ⊢
    omega
  | case3 a b rest hdigits ih =>
    -- a percent sign that starts no escape
    have hescape : hasEscape ('%' :: a :: b :: rest) = hasEscape (a :: b :: rest) := by
      have hnone : startsEscape ('%' :: a :: b :: rest) = false := by
        rw [startsEscape, ← Bool.not_eq_true, Bool.and_eq_true]
        rintro ⟨ha, hb⟩
        exact hdigits _ _ (Option.some_get ha).symm (Option.some_get hb).symm
      rw [hasEscape_cons, hnone, Bool.false_or]
    rw [hescape, List.countP_cons, List.length_cons]
    split <;> omega
  | case4 c rest hc ih =>
    have hescape : hasEscape (c :: rest) = hasEscape rest := by
      rw [hasEscape_cons, startsEscape]
      · rfl
      · rintro a b cs ⟨⟩
        exact hc a b cs rfl rfl
    rw [hescape, List.countP_append, Text.countP_utf8Bytes, List.length_cons]
    omega

/-- A text is read back as it is if it holds no escape, and no part in front of it is read as the
whole. -/
theorem decode_front_iff {front cs : List Char} (hfront : front <+: cs) :
    Text.decodeUtf8? (decode front) = some cs ↔ front = cs ∧ hasEscape cs = false := by
  constructor
  · intro h
    have hlead := Text.length_le_of_decodeUtf8? h
    have hle := countP_decode_le front
    have hlength := hfront.length_le
    obtain rfl := hfront.eq_of_length (by omega)
    refine ⟨rfl, ?_⟩
    cases hescape : hasEscape front with
    | false => rfl
    | true =>
      rw [hescape, Bool.toNat_true] at hle
      omega
  · rintro ⟨rfl, hescape⟩
    rw [decode_of_not_hasEscape hescape, Text.decodeUtf8?_flatMap]

/-- The case of letters makes no difference to escapes. -/
theorem startsEscape_lowerAscii (cs : List Char) :
    startsEscape (Text.lowerAscii cs) = startsEscape cs := by
  unfold Text.lowerAscii
  match cs with
  | [] => rfl
  | [c] => simp [startsEscape]
  | [c, d] => simp [startsEscape]
  | c :: high :: low :: rest =>
    by_cases hc : c = '%'
    · subst hc
      show startsEscape ('%' :: high.toLower :: low.toLower :: rest.map Char.toLower) = _
      rw [startsEscape, startsEscape, Text.isSome_hexValue?_toLower, Text.isSome_hexValue?_toLower]
    · have hlower := mt (Text.toLower_eq_iff (show Text.isAsciiLetter '%' = false by decide)).1 hc
      simp [startsEscape, hc, hlower]

theorem hasEscape_lowerAscii (cs : List Char) : hasEscape (Text.lowerAscii cs) = hasEscape cs := by
  induction cs with
  | nil => rfl
  | cons c cs ih =>
    have hcons : Text.lowerAscii (c :: cs) = c.toLower :: Text.lowerAscii cs := rfl
    rw [hasEscape_cons, ← startsEscape_lowerAscii (c :: cs), hcons, hasEscape_cons, ih]

/-! ## Encoders -/

theorem encode_cons (reserved : Char → Bool) (c : Char) (cs : List Char) :
    encode reserved (c :: cs) = encode reserved [c] ++ encode reserved cs := by
  simp [encode]

/-- A character becomes longer if it is encoded. -/
theorem encode_singleton (reserved : Char → Bool) (c : Char) :
    (encode reserved [c] = [c] ∧ c.toNat < 0x80 ∧ reserved c = false) ∨
      (2 ≤ (encode reserved [c]).length ∧ ¬ (c.toNat < 0x80 ∧ reserved c = false)) := by
  by_cases h : c.toNat < 0x80 ∧ reserved c = false
  · exact .inl ⟨by simp [encode, h], h⟩
  · refine .inr ⟨?_, h⟩
    have hescapes := (escapes_flatMap (Text.utf8Bytes c)).length
    have hbytes := Text.length_utf8Bytes c
    have hsize := c.utf8Size_pos
    have hencode : encode reserved [c] = (Text.utf8Bytes c).flatMap encodeByte := by
      simpa [encode] using fun hascii hplain => absurd ⟨hascii, hplain⟩ h
    rw [hencode]
    omega

theorem length_le_encode (reserved : Char → Bool) (cs : List Char) :
    cs.length ≤ (encode reserved cs).length := by
  induction cs with
  | nil => exact Nat.zero_le _
  | cons c cs ih =>
    rw [encode_cons, List.length_append, List.length_cons]
    rcases encode_singleton reserved c with ⟨h, -⟩ | ⟨h, -⟩
    · rw [h, List.length_singleton]
      omega
    · omega

/-- A text is written as it is if all its characters are ASCII and none is reserved. -/
theorem encode_eq_self_iff {reserved : Char → Bool} {cs : List Char} :
    encode reserved cs = cs ↔ ∀ c ∈ cs, c.toNat < 0x80 ∧ reserved c = false := by
  induction cs with
  | nil => simp [encode]
  | cons c cs ih =>
    rw [List.forall_mem_cons, ← ih, encode_cons]
    rcases encode_singleton reserved c with ⟨hc, hplain⟩ | ⟨hlong, hreserved⟩
    · rw [hc, List.singleton_append, List.cons_eq_cons, and_iff_right rfl, and_iff_right hplain]
    · refine iff_of_false (fun h => ?_) fun h => hreserved h.1
      -- what follows does not become shorter
      have hlength := congrArg List.length h
      have hrest := length_le_encode reserved cs
      rw [List.length_append, List.length_cons] at hlength
      omega

end Percent

end Catalog
