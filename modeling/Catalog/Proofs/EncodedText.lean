import Catalog.Http.Form
import Catalog.Http.Target
import Catalog.Proofs.CharacterBytes

/-!
# Encoded texts

The ways to write a text into an address: every character as itself, or as another one where that
is agreed, or as its bytes in percent signs with hexadecimal digits of either case. Whichever way
was taken, the text is read back.

## Key results

- `Percent.Written.decode_map`: an encoded text decodes to the bytes of the text
- `Percent.Written.utf8ByteSize_le`: encoding makes a text at most three times as long
- `Form.Written.decode`: the names and values of a query are read back
- `PathSegment.Written.decode`: so is the segment of a path
-/

namespace Catalog

theorem Text.utf8ByteSize_ofList_of_ascii {cs : List Char} (h : ∀ c ∈ cs, c.toNat < 0x80) :
    (String.ofList cs).utf8ByteSize = cs.length := by
  induction cs with
  | nil => rfl
  | cons c cs ih =>
    obtain ⟨hc, hcs⟩ := List.forall_mem_cons.1 h
    have hone : c.utf8Size = 1 :=
      Char.utf8Size_eq_one_iff.2 (UInt32.le_iff_toNat_le.2 (show c.toNat ≤ 127 by omega))
    rw [String.ofList_cons, String.utf8ByteSize_append, String.utf8ByteSize_singleton, hone,
      ih hcs, List.length_cons, Nat.add_comm]

namespace Percent

/-- Bytes as percent signs with two hexadecimal digits each. -/
inductive Escapes : List UInt8 → List Char → Prop where
  | nil : Escapes [] []
  | cons {b : UInt8} {bs : List UInt8} {high low : Char} {cs : List Char}
      (hhigh : Text.hexValue? high = some (b.toNat / 16))
      (hlow : Text.hexValue? low = some (b.toNat % 16)) (rest : Escapes bs cs) :
      Escapes (b :: bs) ('%' :: high :: low :: cs)

/-- An encoded text: `stands c d` says that `d` may be written for the character `c`, and every
character may be written as its bytes. -/
inductive Written (stands : Char → Char → Prop) : List Char → List Char → Prop where
  | nil : Written stands [] []
  | plain {c d : Char} {cs ds : List Char} (h : stands c d) (rest : Written stands cs ds) :
      Written stands (c :: cs) (d :: ds)
  | escaped {c : Char} {cs es ds : List Char} (h : Escapes (Text.utf8Bytes c) es)
      (rest : Written stands cs ds) : Written stands (c :: cs) (es ++ ds)

/-- A character of an escape. -/
def isEscapeChar (c : Char) : Bool :=
  c = '%' || (Text.hexValue? c).isSome

theorem isEscapeChar_of_hexValue? {c : Char} {n : Nat} (h : Text.hexValue? c = some n) :
    isEscapeChar c = true := by
  rw [isEscapeChar, h, Option.isSome_some, Bool.or_true]

/-- Beside the percent sign, escapes are made of letters and digits. -/
theorem isEscapeChar_iff {c : Char} : isEscapeChar c = true ↔
    c = '%' ∨ (48 ≤ c.toNat ∧ c.toNat ≤ 57) ∨ (97 ≤ c.toNat ∧ c.toNat ≤ 102) ∨
      (65 ≤ c.toNat ∧ c.toNat ≤ 70) := by
  have hrange : ∀ low high : Char, low ≤ c ∧ c ≤ high ↔
      low.toNat ≤ c.toNat ∧ c.toNat ≤ high.toNat := fun _ _ => Iff.rfl
  simp only [isEscapeChar, Bool.or_eq_true, decide_eq_true_eq, Text.hexValue?, hrange]
  show _ ∨ (if 48 ≤ c.toNat ∧ c.toNat ≤ 57 then some (c.toNat - 48)
    else if 97 ≤ c.toNat ∧ c.toNat ≤ 102 then some (c.toNat - 87)
    else if 65 ≤ c.toNat ∧ c.toNat ≤ 70 then some (c.toNat - 55) else none).isSome = true ↔ _
  refine or_congr_right ?_
  split
  · simp_all
  split
  · simp_all
  split
  · simp_all
  · simp_all

theorem Escapes.isEscapeChar {bs : List UInt8} {cs : List Char} (h : Escapes bs cs) :
    ∀ c ∈ cs, isEscapeChar c = true := by
  induction h with
  | nil => exact fun c hc => absurd hc List.not_mem_nil
  | cons hhigh hlow _ ih =>
    intro c hc
    rcases List.mem_cons.1 hc with rfl | hc
    · rfl
    rcases List.mem_cons.1 hc with rfl | hc
    · exact isEscapeChar_of_hexValue? hhigh
    rcases List.mem_cons.1 hc with rfl | hc
    · exact isEscapeChar_of_hexValue? hlow
    · exact ih c hc

theorem Escapes.length {bs : List UInt8} {cs : List Char} (h : Escapes bs cs) :
    cs.length = 3 * bs.length := by
  induction h with
  | nil => rfl
  | cons _ _ _ ih => simp only [List.length_cons, ih]; omega

theorem Escapes.decode_append {bs : List UInt8} {cs : List Char} (h : Escapes bs cs)
    (rest : List Char) : decode (cs ++ rest) = bs ++ decode rest := by
  induction h with
  | nil => rfl
  | @cons b bs high low cs hhigh hlow _ ih =>
    have hvalue : b.toNat / 16 * 16 + b.toNat % 16 = b.toNat := by omega
    simp only [List.cons_append, decode, hhigh, hlow, ih, hvalue]
    rw [Nat.toUInt8_eq, UInt8.ofNat_toNat]

/-- Bytes written by the encoder are escapes. -/
theorem escapes_flatMap (bs : List UInt8) : Escapes bs (bs.flatMap encodeByte) := by
  induction bs with
  | nil => exact .nil
  | cons b bs ih =>
    have hb := b.toNat_lt
    exact .cons (hexValue?_upperHexDigit (by omega)) (hexValue?_upperHexDigit (by omega)) ih

theorem decode_cons_of_ne {c : Char} (h : c ≠ '%') (rest : List Char) :
    decode (c :: rest) = Text.utf8Bytes c ++ decode rest := by
  rw [decode]
  intro a b cs hc
  exact absurd hc h

namespace Written

variable {stands : Char → Char → Prop} {text written : List Char}

/-- What holds of the characters of escapes and of those that stand for the text's characters holds
of every character written. -/
theorem forall_mem (h : Written stands text written) {p : Char → Prop}
    (hescape : ∀ c, isEscapeChar c = true → p c)
    (hstands : ∀ c ∈ text, ∀ d, stands c d → p d) : ∀ d ∈ written, p d := by
  induction h with
  | nil => exact fun d hd => absurd hd List.not_mem_nil
  | plain h _ ih =>
    refine List.forall_mem_cons.2 ⟨hstands _ List.mem_cons_self _ h, ih fun c hc => ?_⟩
    exact hstands c (List.mem_cons_of_mem _ hc)
  | escaped h _ ih =>
    intro d hd
    rcases List.mem_append.1 hd with hd | hd
    · exact hescape d (h.isEscapeChar d hd)
    · exact ih (fun c hc => hstands c (List.mem_cons_of_mem _ hc)) d hd

/-- `f` undoes what characters were written for others, and leaves escapes alone: the bytes of the
text are decoded. -/
theorem decode_map (h : Written stands text written) {f : Char → Char}
    (hescape : ∀ c, isEscapeChar c = true → f c = c)
    (hstands : ∀ c d, stands c d → f d = c ∧ c ≠ '%') :
    decode (written.map f) = text.flatMap Text.utf8Bytes := by
  induction h with
  | nil => rw [List.map_nil, decode, List.flatMap_nil]
  | plain h _ ih =>
    obtain ⟨hback, hne⟩ := hstands _ _ h
    rw [List.map_cons, hback, decode_cons_of_ne hne, ih, List.flatMap_cons]
  | @escaped c cs es ds h _ ih =>
    have hes : es.map f = es := by
      conv => rhs; rw [← List.map_id' es]
      exact List.map_congr_left fun d hd => hescape d (h.isEscapeChar d hd)
    rw [List.map_append, hes, h.decode_append, ih, List.flatMap_cons]

theorem utf8ByteSize_le (h : Written stands text written)
    (hstands : ∀ c d, stands c d → d.utf8Size ≤ c.utf8Size) :
    (String.ofList written).utf8ByteSize ≤ 3 * (String.ofList text).utf8ByteSize := by
  induction h with
  | nil => exact Nat.le_refl 0
  | plain h _ ih =>
    have := hstands _ _ h
    simp only [String.ofList_cons, String.utf8ByteSize_append, String.utf8ByteSize_singleton]
    omega
  | @escaped c cs es ds h _ ih =>
    -- the characters of an escape have one byte each
    have hes : (String.ofList es).utf8ByteSize = es.length := by
      refine Text.utf8ByteSize_ofList_of_ascii fun e he => ?_
      rcases isEscapeChar_iff.1 (h.isEscapeChar e he) with rfl | he
      · decide
      · omega
    have hlength := h.length
    rw [Text.length_utf8Bytes] at hlength
    rw [String.ofList_append, String.ofList_cons, String.utf8ByteSize_append,
      String.utf8ByteSize_append, String.utf8ByteSize_singleton, hes]
    omega

end Written

/-- What the encoder writes is an encoded text, if it reserves every character that does not stand
for itself. -/
theorem written_encode {stands : Char → Char → Prop} {reserved : Char → Bool}
    (h : ∀ c, reserved c = false → stands c c) (cs : List Char) :
    Written stands cs (encode reserved cs) := by
  induction cs with
  | nil => exact .nil
  | cons c cs ih =>
    rw [encode, List.flatMap_cons]
    split
    · next hplain =>
      rw [Bool.and_eq_true, Bool.not_eq_true'] at hplain
      exact .plain (h c hplain.2) ih
    · exact .escaped (escapes_flatMap (Text.utf8Bytes c)) ih

end Percent

/-! ## Names and values of a query -/

namespace Form

/-- `d` may be written for `c`: a plus sign for a space, and itself for what neither ends a part nor
is decoded. -/
def Stands (c d : Char) : Prop :=
  (c = ' ' ∧ d = '+') ∨ (c = d ∧ RequestTarget.isQueryChar d = true ∧ d ∉ ['%', '+', '&'])

/-- A name or a value as it may stand in a query. -/
def Written (text : String) (written : List Char) : Prop :=
  Percent.Written Stands text.toList written

namespace Written

variable {text : String} {written : List Char}

theorem decode (h : Written text written) : Form.decode written = text := by
  have hdecode := h.decode_map (f := fun c => if c = '+' then ' ' else c)
    (fun c hc => by
      refine if_neg ?_
      rintro rfl
      exact absurd hc (by decide))
    (fun c d hstands => by
      rcases hstands with ⟨rfl, rfl⟩ | ⟨rfl, -, hplain⟩
      · exact ⟨rfl, by decide⟩
      · simp only [List.mem_cons, List.not_mem_nil, or_false, not_or] at hplain
        exact ⟨if_neg hplain.2.1, hplain.1⟩)
  rw [Form.decode, hdecode, Text.decodeLossy_flatMap, String.ofList_toList]

theorem isQueryChar (h : Written text written) :
    ∀ c ∈ written, RequestTarget.isQueryChar c = true := by
  refine h.forall_mem (fun c hc => ?_) fun c _ d hstands => ?_
  · rw [RequestTarget.isQueryChar, Bool.and_eq_true, decide_eq_true_eq, decide_eq_true_eq]
    rcases Percent.isEscapeChar_iff.1 hc with rfl | hc
    · decide
    · refine ⟨by omega, fun hm => ?_⟩
      simp only [List.mem_cons, List.not_mem_nil, or_false] at hm
      rcases hm with rfl | rfl | rfl | rfl <;> revert hc <;> decide
  · rcases hstands with ⟨-, rfl⟩ | ⟨-, hchar, -⟩
    · decide
    · exact hchar

theorem ampersand_not_mem (h : Written text written) : '&' ∉ written := by
  intro hm
  refine h.forall_mem (p := (· ≠ '&')) (fun c hc => ?_) (fun c _ d hstands => ?_) _ hm rfl
  · rintro rfl
    exact absurd hc (by decide)
  · rcases hstands with ⟨-, rfl⟩ | ⟨-, -, hplain⟩
    · decide
    · rintro rfl
      exact hplain (by decide)

/-- An equals sign is only written where the text has one. -/
theorem equals_not_mem (h : Written text written) (htext : '=' ∉ text.toList) : '=' ∉ written := by
  intro hm
  refine h.forall_mem (p := (· ≠ '=')) (fun c hc => ?_) (fun c hmem d hstands => ?_) _ hm rfl
  · rintro rfl
    exact absurd hc (by decide)
  · rcases hstands with ⟨-, rfl⟩ | ⟨rfl, -, -⟩
    · decide
    · rintro rfl
      exact htext hmem

theorem utf8ByteSize_le (h : Written text written) :
    (String.ofList written).utf8ByteSize ≤ 3 * text.utf8ByteSize := by
  have := Percent.Written.utf8ByteSize_le h fun c d hstands => by
    rcases hstands with ⟨rfl, rfl⟩ | ⟨rfl, -, -⟩
    · decide
    · exact Nat.le_refl _
  rwa [String.ofList_toList] at this

end Written

/-- Write a name or a value. -/
def encode (text : String) : List Char :=
  Percent.encode (fun c => !RequestTarget.isQueryChar c || ['%', '+', '&'].contains c) text.toList

theorem written_encode (text : String) : Written text (encode text) := by
  refine Percent.written_encode (fun c hc => .inr ⟨rfl, ?_⟩) text.toList
  rw [Bool.or_eq_false_iff, Bool.not_eq_false', List.contains_eq_mem, decide_eq_false_iff_not] at hc
  exact hc

end Form

/-! ## Segments of a path -/

namespace PathSegment

/-- A character stands for itself if a path may hold it, and it neither ends a segment nor is
decoded. -/
def Stands (c d : Char) : Prop :=
  c = d ∧ RequestTarget.isPathChar d = true ∧ d ∉ ['%', '/']

/-- A text as it may stand in a segment of a path. -/
def Written (text : String) (written : List Char) : Prop :=
  Percent.Written Stands text.toList written

namespace Written

variable {text : String} {written : List Char}

theorem decode (h : Written text written) :
    Text.decodeUtf8? (Percent.decode written) = some text.toList := by
  have hdecode := h.decode_map (f := id) (fun _ _ => rfl) fun c d hstands => by
    obtain ⟨rfl, -, hplain⟩ := hstands
    refine ⟨rfl, ?_⟩
    rintro rfl
    exact hplain (by decide)
  rw [List.map_id] at hdecode
  rw [hdecode, Text.decodeUtf8?_flatMap]

theorem isPathChar (h : Written text written) :
    ∀ c ∈ written, RequestTarget.isPathChar c = true := by
  refine h.forall_mem (fun c hc => ?_) fun c _ d hstands => hstands.2.1
  rw [RequestTarget.isPathChar, Bool.and_eq_true, decide_eq_true_eq, decide_eq_true_eq]
  rcases Percent.isEscapeChar_iff.1 hc with rfl | hc
  · decide
  · refine ⟨by omega, fun hm => ?_⟩
    simp only [List.mem_cons, List.not_mem_nil, or_false] at hm
    rcases hm with rfl | rfl | rfl | rfl | rfl <;> revert hc <;> decide

theorem slash_not_mem (h : Written text written) : '/' ∉ written := by
  intro hm
  refine h.forall_mem (p := (· ≠ '/')) (fun c hc => ?_) (fun c _ d hstands => ?_) _ hm rfl
  · rintro rfl
    exact absurd hc (by decide)
  · rintro rfl
    exact hstands.2.2 (by decide)

theorem ne_nil (h : Written text written) (htext : text ≠ "") : written ≠ [] := by
  rintro rfl
  -- the empty text decodes to itself alone
  have hdecode := h.decode
  rw [Percent.decode] at hdecode
  have hnil : text.toList = [] := (Option.some.inj hdecode).symm
  exact htext (String.toList_eq_nil_iff.1 hnil)

end Written

/-- Write a segment. -/
def encode (text : String) : List Char :=
  Percent.encode (fun c => !RequestTarget.isPathChar c || ['%', '/'].contains c) text.toList

theorem written_encode (text : String) : Written text (encode text) := by
  refine Percent.written_encode (fun c hc => ⟨rfl, ?_⟩) text.toList
  rw [Bool.or_eq_false_iff, Bool.not_eq_false', List.contains_eq_mem, decide_eq_false_iff_not] at hc
  exact hc

end PathSegment

end Catalog
