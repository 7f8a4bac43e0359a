/-!
# UTF-8

Bytes of a text, and reading bytes back: strictly, or with every maximal ill-formed part replaced
by U+FFFD.
-/

namespace Catalog.Text

/-- The UTF-8 bytes of a character. -/
def utf8Bytes (c : Char) : List UInt8 :=
  let n := c.toNat
  if n < 0x80 then [n.toUInt8]
  else if n < 0x800 then [(0xC0 + n / 64).toUInt8, (0x80 + n % 64).toUInt8]
  else if n < 0x10000 then
    [(0xE0 + n / 4096).toUInt8, (0x80 + n / 64 % 64).toUInt8, (0x80 + n % 64).toUInt8]
  else
    [(0xF0 + n / 262144).toUInt8, (0x80 + n / 4096 % 64).toUInt8, (0x80 + n / 64 % 64).toUInt8,
      (0x80 + n % 64).toUInt8]

/-- How a sequence starting with a given byte goes on: the number of continuation bytes, the range
of the first of them, and the bits that the lead byte contributes. -/
structure Lead where
  /-- Continuation bytes that follow. -/
  more : Nat
  /-- Least first continuation byte. -/
  low : UInt8
  /-- Greatest first continuation byte. -/
  high : UInt8
  /-- Value of the lead byte's own bits. -/
  bits : Nat

/-- Classify a byte above ASCII as the lead of a well-formed sequence. -/
def Lead.ofByte? (b : UInt8) : Option Lead :=
  if 0xC2 ≤ b ∧ b ≤ 0xDF then some ⟨1, 0x80, 0xBF, b.toNat - 0xC0⟩
  else if b = 0xE0 then some ⟨2, 0xA0, 0xBF, 0⟩
  else if b = 0xED then some ⟨2, 0x80, 0x9F, 0xD⟩
  else if 0xE1 ≤ b ∧ b ≤ 0xEF then some ⟨2, 0x80, 0xBF, b.toNat - 0xE0⟩
  else if b = 0xF0 then some ⟨3, 0x90, 0xBF, 0⟩
  else if 0xF1 ≤ b ∧ b ≤ 0xF3 then some ⟨3, 0x80, 0xBF, b.toNat - 0xF0⟩
  else if b = 0xF4 then some ⟨3, 0x80, 0x8F, 4⟩
  else none

/-- The state of a decoder inside a sequence. -/
inductive DecoderState where
  /-- Between characters. -/
  | start
  /-- `more` continuation bytes are due, the next of them within `low` and `high`. -/
  | inside (more : Nat) (low high : UInt8) (value : Nat)

/-- What one byte makes of a decoder: the next state, the characters completed, with `none` for an
ill-formed part. -/
def DecoderState.step (state : DecoderState) (b : UInt8) : DecoderState × List (Option Char) :=
  let fresh : DecoderState × List (Option Char) :=
    if b < 0x80 then (.start, [some (Char.ofNat b.toNat)])
    else match Lead.ofByte? b with
      | some lead => (.inside lead.more lead.low lead.high lead.bits, [])
      | none => (.start, [none])
  match state with
  | .start => fresh
  | .inside more low high value =>
    if low ≤ b ∧ b ≤ high then
      let value := value * 64 + (b.toNat - 0x80)
      if more ≤ 1 then (.start, [some (Char.ofNat value)])
      else (.inside (more - 1) 0x80 0xBF value, [])
    else (fresh.1, none :: fresh.2)

/-- Decode bytes from a state; `none` stands for each maximal ill-formed part. -/
def decodeFrom : DecoderState → List UInt8 → List (Option Char)
  | .start, [] => []
  | .inside .., [] => [none]
  | state, b :: bs =>
    let (state, out) := state.step b
    out ++ decodeFrom state bs

/-- Decode bytes, writing U+FFFD for each maximal ill-formed part. -/
def decodeLossy (bytes : List UInt8) : List Char :=
  (decodeFrom .start bytes).map (·.getD '\ufffd')

/-- Decode bytes that must be well formed throughout. -/
def decodeUtf8? (bytes : List UInt8) : Option (List Char) :=
  (decodeFrom .start bytes).mapM id

end Catalog.Text
