import Catalog.Proofs.Digits
import Catalog.Proofs.Pieces
import Catalog.Proofs.Traversal
import Catalog.Url.Host
import Mathlib.Algebra.Group.Nat.Defs

/-!
# Internet addresses read back

An address of either version is written in one form and read from many. What was read from any of
them is a number of 32 bits, or eight pieces of 16 bits, and is read back from the form in which it
is written.

## Key results

- `Url.readIpv4?_lt`, `Url.readIpv4?_renderIpv4`: dotted addresses
- `Url.eightPieces_of_readIpv6?`, `Url.readIpv6?_renderIpv6`: addresses of eight pieces
- `Url.longestZeros_spec`: the run that is left out is one of zeros
-/

namespace Catalog.Url

/-! ## Dotted addresses -/

/-- Bytes with their weights, added to the number at the end. -/
def weighted (weight : Nat → Nat) (leading : List Nat) (last : Nat) : Nat :=
  (leading.zip (List.range 4)).foldl (fun n (b, i) => n + b * weight i) last

/-- The number that the bytes in front and the number at the end stand for. -/
def ipv4Of (leading : List Nat) (last : Nat) : Nat :=
  weighted (fun i => Nat.pow 256 (3 - i)) leading last

section Weighted

variable (weight : Nat → Nat) (a b c last : Nat)

theorem weighted_three :
    weighted weight [a, b, c] last = last + a * weight 0 + b * weight 1 + c * weight 2 := rfl

end Weighted

/-- The weights of the bytes. -/
theorem ipv4_weights : Nat.pow 256 (3 - 0) = 16777216 ∧ Nat.pow 256 (3 - 1) = 65536 ∧
    Nat.pow 256 (3 - 2) = 256 := by
  decide

/-- What it takes to read a dotted address. -/
theorem readIpv4?_eq_some_iff {cs : List Char} {address : Nat} :
    readIpv4? cs = some address ↔ (dottedParts cs).length ≤ 4 ∧ ∃ numbers last,
      (dottedParts cs).mapM (fun part => (ipv4Number? part).bind id) = some numbers ∧
      numbers.getLast? = some last ∧ (∀ b ∈ numbers.dropLast, b ≤ 255) ∧
      last < Nat.pow 256 (4 - numbers.dropLast.length) ∧
      ipv4Of numbers.dropLast last = address := by
  have hread : readIpv4? cs =
      if 4 < (dottedParts cs).length then none
      else ((dottedParts cs).mapM fun part => (ipv4Number? part).bind id).bind fun numbers =>
        numbers.getLast?.bind fun last =>
          if (numbers.dropLast.any fun b => decide (255 < b)) ||
              decide (Nat.pow 256 (4 - numbers.dropLast.length) ≤ last) then none
          else some (ipv4Of numbers.dropLast last) := by
    unfold readIpv4?
    simp only [Option.bind_eq_bind]
    split
    · rfl
    · rfl
  rw [hread]
  split
  · next hlong => exact iff_of_false nofun fun h => absurd h.1 (Nat.not_le.2 hlong)
  · next hlong =>
    simp [Option.bind_eq_some_iff, Nat.not_lt.1 hlong, and_assoc]

/-- A byte in decimal. -/
theorem byte_digits {n : Nat} (h : n < 256) :
    ipv4Number? (Nat.toDigits 10 n) = some (some n) ∧ (Nat.toDigits 10 n).isEmpty = false ∧
      (Nat.toDigits 10 n).all Text.isAsciiDigit = true := by
  have hall : ∀ n ∈ List.range 256, ipv4Number? (Nat.toDigits 10 n) = some (some n) ∧
      (Nat.toDigits 10 n).isEmpty = false ∧
      (Nat.toDigits 10 n).all Text.isAsciiDigit = true := by decide +kernel
  exact hall n (List.mem_range.2 h)

/-- The bytes of a number, the first one first. -/
def ipv4Bytes (address : Nat) : List Nat :=
  [3, 2, 1, 0].map fun i => address / Nat.pow 256 i % 256

theorem lt_of_mem_ipv4Bytes {address b : Nat} (h : b ∈ ipv4Bytes address) : b < 256 := by
  obtain ⟨i, -, rfl⟩ := List.mem_map.1 h
  exact Nat.mod_lt _ (by decide)

theorem renderIpv4_eq (address : Nat) :
    renderIpv4 address = Text.joinWith '.' ((ipv4Bytes address).map (Nat.toDigits 10)) := by
  simp [renderIpv4, ipv4Bytes]

theorem mem_renderIpv4 {address : Nat} {c : Char} (h : c ∈ renderIpv4 address) :
    c = '.' ∨ Text.isAsciiDigit c = true := by
  rw [renderIpv4_eq] at h
  refine Text.forall_mem_joinWith (p := fun c => c = '.' ∨ Text.isAsciiDigit c = true) (.inl rfl)
    (fun piece hpiece c hc => ?_) c h
  obtain ⟨b, -, rfl⟩ := List.mem_map.1 hpiece
  exact .inr (Numeral.isAsciiDigit_of_mem_toDigits hc)

theorem dottedParts_renderIpv4 (address : Nat) :
    dottedParts (renderIpv4 address) = (ipv4Bytes address).map (Nat.toDigits 10) := by
  have hdot : ∀ piece ∈ (ipv4Bytes address).map (Nat.toDigits 10), '.' ∉ piece := by
    intro piece hpiece hmem
    obtain ⟨b, -, rfl⟩ := List.mem_map.1 hpiece
    exact absurd (Numeral.isAsciiDigit_of_mem_toDigits hmem) (by decide)
  have hsplit : Text.splitOn '.' (renderIpv4 address) =
      (ipv4Bytes address).map (Nat.toDigits 10) := by
    rw [renderIpv4_eq, Text.splitOn_joinWith (by simp [ipv4Bytes]) hdot]
  -- no part is empty, least of all the last one
  rw [dottedParts, hsplit]
  simp [ipv4Bytes]

/-- A dotted address is read as one, not as a domain. -/
theorem endsInNumber_renderIpv4 (address : Nat) : endsInNumber (renderIpv4 address) = true := by
  have hdigits := byte_digits (n := address % 256) (Nat.mod_lt _ (by decide))
  simp [endsInNumber, dottedParts_renderIpv4, ipv4Bytes, hdigits]

/-- A number of 32 bits is read back. -/
theorem readIpv4?_renderIpv4 {address : Nat} (h : address < 2 ^ 32) :
    readIpv4? (renderIpv4 address) = some address := by
  have hread : ((ipv4Bytes address).map (Nat.toDigits 10)).mapM
      (fun part => (ipv4Number? part).bind id) = some (ipv4Bytes address) := by
    rw [mapM_eq_some_iff, List.forall₂_map_left_iff, List.forall₂_same]
    intro b hb
    rw [(byte_digits (lt_of_mem_ipv4Bytes hb)).1]
    rfl
  rw [readIpv4?_eq_some_iff, dottedParts_renderIpv4]
  refine ⟨by simp [ipv4Bytes], ipv4Bytes address, address % 256, hread, by simp [ipv4Bytes],
    fun b hb => ?_, ?_, ?_⟩
  · have := lt_of_mem_ipv4Bytes ((List.dropLast_sublist _).subset hb)
    omega
  · have := Nat.mod_lt address (show 0 < 256 by decide)
    simpa [ipv4Bytes] using this
  · obtain ⟨hfirst, hsecond, hthird⟩ := ipv4_weights
    have hleading : (ipv4Bytes address).dropLast =
        [address / Nat.pow 256 3 % 256, address / Nat.pow 256 2 % 256,
          address / Nat.pow 256 1 % 256] := rfl
    rw [hleading, ipv4Of, weighted_three, hfirst, hsecond, hthird]
    omega

/-! ## Pieces of 16 bits -/

/-- The value of hexadecimal digits behind a number. -/
def hexFrom (n : Nat) (cs : List Char) : Option Nat :=
  cs.foldlM (fun n c => (Text.hexValue? c).map fun d => n * 16 + d) n

theorem hexFrom_append (n : Nat) (cs ds : List Char) :
    hexFrom n (cs ++ ds) = (hexFrom n cs).bind fun m => hexFrom m ds := by
  simp [hexFrom, List.foldlM_append]

theorem hexValue?_digitChar {n : Nat} (h : n < 16) :
    Text.hexValue? (Nat.digitChar n) = some n := by
  have hall : ∀ n ∈ List.range 16, Text.hexValue? (Nat.digitChar n) = some n := by decide
  exact hall n (List.mem_range.2 h)

/-- The digits of a number are those of its value. -/
theorem hexFrom_toDigits (n : Nat) : hexFrom 0 (Nat.toDigits 16 n) = some n := by
  induction n using Nat.strongRecOn with
  | ind n ih =>
    by_cases hlt : n < 16
    · rw [Nat.toDigits_of_lt_base hlt]
      simp [hexFrom, hexValue?_digitChar hlt]
    · -- the last digit stands behind those of the quotient
      have hdiv : n / 16 < n := Nat.div_lt_self (by omega) (by decide)
      rw [Nat.toDigits_of_base_le (by decide) (Nat.not_lt.1 hlt), hexFrom_append, ih _ hdiv]
      simp only [Option.bind_some, hexFrom, List.foldlM_cons, List.foldlM_nil,
        hexValue?_digitChar (Nat.mod_lt n (show 0 < 16 by decide)), Option.map_some,
        Option.bind_eq_bind, Option.pure_def, Option.some.injEq]
      omega

/-- A piece is read back from its digits. -/
theorem ipv6Piece?_toDigits {n : Nat} (h : n < 2 ^ 16) :
    ipv6Piece? (Nat.toDigits 16 n) = some n := by
  have hlength : (Nat.toDigits 16 n).length ≤ 4 :=
    (Nat.length_toDigits_le_iff (by decide) (by decide)).2 h
  have hne : (Nat.toDigits 16 n).isEmpty = false := by simp
  unfold ipv6Piece?
  rw [hne, Bool.false_or, if_neg (by simpa using hlength)]
  exact hexFrom_toDigits n

theorem mem_toDigits {n : Nat} {c : Char} (h : c ∈ Nat.toDigits 16 n) :
    ∃ d < 16, c = Nat.digitChar d := by
  induction n using Nat.strongRecOn with
  | ind n ih =>
    by_cases hlt : n < 16
    · rw [Nat.toDigits_of_lt_base hlt, List.mem_singleton] at h
      exact ⟨n, hlt, h⟩
    · have hdiv : n / 16 < n := Nat.div_lt_self (by omega) (by decide)
      rw [Nat.toDigits_of_base_le (by decide) (Nat.not_lt.1 hlt), List.mem_append,
        List.mem_singleton] at h
      cases h with
      | inl h => exact ih _ hdiv h
      | inr h => exact ⟨n % 16, Nat.mod_lt _ (by decide), h⟩

theorem not_mem_toDigits {c : Char} (hc : ∀ d ∈ List.range 16, c ≠ Nat.digitChar d) (n : Nat) :
    c ∉ Nat.toDigits 16 n := by
  intro h
  obtain ⟨d, hd, hcd⟩ := mem_toDigits h
  exact hc d (List.mem_range.2 hd) hcd

/-- Pieces between colons. -/
def hexText (pieces : List Nat) : List Char :=
  Text.joinWith ':' (pieces.map (Nat.toDigits 16))

theorem mem_hexText {pieces : List Nat} {c : Char} (h : c ∈ hexText pieces) :
    c = ':' ∨ ∃ d < 16, c = Nat.digitChar d := by
  refine Text.forall_mem_joinWith (p := fun c => c = ':' ∨ ∃ d < 16, c = Nat.digitChar d)
    (.inl rfl) (fun piece hpiece c hc => ?_) c h
  obtain ⟨n, -, rfl⟩ := List.mem_map.1 hpiece
  exact .inr (mem_toDigits hc)

theorem dot_not_mem_hexText (pieces : List Nat) : '.' ∉ hexText pieces := by
  intro h
  cases mem_hexText h with
  | inl h => cases h
  | inr h =>
    obtain ⟨d, hd, hdot⟩ := h
    have hall : ∀ d ∈ List.range 16, '.' ≠ Nat.digitChar d := by decide
    exact hall d (List.mem_range.2 hd) hdot

/-- Pieces are read back from between their colons. -/
theorem ipv6Pieces?_hexText {pieces : List Nat} (h : ∀ p ∈ pieces, p < 2 ^ 16) :
    ipv6Pieces? (hexText pieces) = some pieces := by
  cases pieces with
  | nil => rfl
  | cons first rest =>
    have hcolon : ∀ piece ∈ (first :: rest).map (Nat.toDigits 16), ':' ∉ piece := by
      intro piece hpiece
      obtain ⟨n, -, rfl⟩ := List.mem_map.1 hpiece
      exact not_mem_toDigits (by decide) n
    have hsplit : Text.splitOn ':' (hexText (first :: rest)) =
        (first :: rest).map (Nat.toDigits 16) :=
      Text.splitOn_joinWith (by simp) hcolon
    have hne : (hexText (first :: rest)).isEmpty = false := by
      cases hempty : (hexText (first :: rest)).isEmpty with
      | false => rfl
      | true =>
        rw [List.isEmpty_iff.1 hempty] at hsplit
        simp [Text.splitOn] at hsplit
    have hread : ((first :: rest).map (Nat.toDigits 16)).mapM ipv6Piece? = some (first :: rest) := by
      rw [mapM_eq_some_iff, List.forall₂_map_left_iff, List.forall₂_same]
      exact fun n hn => ipv6Piece?_toDigits (h n hn)
    unfold ipv6Pieces?
    rw [hne, if_neg Bool.false_ne_true]
    simp only [hsplit]
    split
    · next last hlast =>
      have hdot : last.contains '.' = false := by
        rw [List.contains_eq_mem, decide_eq_false_iff_not]
        intro hmem
        obtain ⟨n, -, rfl⟩ := List.mem_map.1 (List.mem_of_getLast? hlast)
        exact not_mem_toDigits (by decide) n hmem
      rw [hdot, if_neg Bool.false_ne_true, hread]
    · next hnone => simp at hnone

/-! ## The double colon -/

/-- A text without colons in front does not move the first double colon. -/
theorem splitDoubleColon_append {word : List Char} (h : ':' ∉ word) (rest : List Char) :
    splitDoubleColon (word ++ rest) =
      (splitDoubleColon rest).map fun (before, after) => (word ++ before, after) := by
  induction word with
  | nil => simp
  | cons c word ih =>
    rw [List.mem_cons, not_or] at h
    have hstep : splitDoubleColon (c :: (word ++ rest)) =
        (splitDoubleColon (word ++ rest)).map fun (before, after) => (c :: before, after) := by
      rw [splitDoubleColon]
      intro rest' hcolon
      exact absurd hcolon.symm h.1
    rw [List.cons_append, hstep, ih h.2, Option.map_map]
    rfl

theorem splitDoubleColon_single {c : Char} (h : c ≠ ':') (rest : List Char) :
    splitDoubleColon (':' :: c :: rest) =
      (splitDoubleColon (c :: rest)).map fun (before, after) => (':' :: before, after) := by
  rw [splitDoubleColon]
  intro rest' _ hcolon
  exact h (List.cons_eq_cons.1 hcolon).1

/-- Nor do pieces between single colons. -/
theorem splitDoubleColon_hexText (pieces : List Nat) (rest : List Char) :
    splitDoubleColon (hexText pieces ++ rest) =
      (splitDoubleColon rest).map fun (before, after) => (hexText pieces ++ before, after) := by
  have hcolon : ∀ n, ':' ∉ Nat.toDigits 16 n := not_mem_toDigits (by decide)
  induction pieces with
  | nil => simp [hexText, Text.joinWith]
  | cons n pieces ih =>
    cases pieces with
    | nil => exact splitDoubleColon_append (hcolon n) rest
    | cons m pieces =>
      have hcons : hexText (n :: m :: pieces) =
          Nat.toDigits 16 n ++ ':' :: hexText (m :: pieces) := rfl
      -- behind the colon stands a digit
      obtain ⟨c, cs, hfirst, hc⟩ : ∃ c cs, hexText (m :: pieces) = c :: cs ∧ c ≠ ':' := by
        obtain ⟨c, cs, hdigits⟩ := List.exists_cons_of_ne_nil (Nat.toDigits_ne_nil (b := 16) (n := m))
        have hc : c ≠ ':' := by
          rintro rfl
          exact hcolon m (hdigits ▸ List.mem_cons_self)
        cases pieces with
        | nil => exact ⟨c, cs, hdigits, hc⟩
        | cons k pieces =>
          refine ⟨c, cs ++ ':' :: hexText (k :: pieces), ?_, hc⟩
          show Nat.toDigits 16 m ++ ':' :: hexText (k :: pieces) = _
          rw [hdigits, List.cons_append]
      have hrest : splitDoubleColon (':' :: (hexText (m :: pieces) ++ rest)) =
          (splitDoubleColon (hexText (m :: pieces) ++ rest)).map
            fun (before, after) => (':' :: before, after) := by
        rw [hfirst]
        exact splitDoubleColon_single hc (cs ++ rest)
      rw [hcons, List.append_assoc, splitDoubleColon_append (hcolon n), List.cons_append, hrest, ih,
        Option.map_map, Option.map_map]
      congr 1
      funext pair
      simp

/-! ## The run of zeros -/

/-- A stretch of a list, given by its start and its length, that holds zeros only. -/
def IsZeroRun (pieces : List Nat) (run : Nat × Nat) : Prop :=
  ∃ before after, pieces = before ++ List.replicate run.2 0 ++ after ∧ before.length = run.1

/-- The stretch found is one of zeros: so is the best one so far, and the one that ends here. -/
theorem longestZeros_spec {before rest : List Nat} {index run : Nat} {best : Nat × Nat}
    (hindex : before.length + run = index)
    (hbest : IsZeroRun (before ++ List.replicate run 0 ++ rest) best) :
    IsZeroRun (before ++ List.replicate run 0 ++ rest) (longestZeros index run best rest) := by
  induction rest generalizing before index run best with
  | nil => exact hbest
  | cons p rest ih =>
    rw [longestZeros]
    split
    · -- the run that ends here grows by one zero
      next hp =>
      subst hp
      have hmore : before ++ List.replicate run 0 ++ 0 :: rest =
          before ++ List.replicate (run + 1) 0 ++ rest := by
        rw [List.replicate_succ', List.append_assoc, List.append_assoc, List.append_assoc,
          List.singleton_append]
      rw [hmore] at hbest ⊢
      refine ih (by omega) ?_
      split
      · exact ⟨before, rest, rfl, by simp only; omega⟩
      · exact hbest
    · -- an empty run starts behind another piece
      next hp =>
      have hmore : before ++ List.replicate run 0 ++ p :: rest =
          before ++ List.replicate run 0 ++ [p] ++ List.replicate 0 0 ++ rest := by simp
      rw [hmore] at hbest ⊢
      exact ih (by simp; omega) hbest

/-- An address of eight pieces of 16 bits. -/
structure EightPieces (pieces : List Nat) : Prop where
  length_eq : pieces.length = 8
  lt : ∀ p ∈ pieces, p < 2 ^ 16

theorem readIpv6?_eq_some_iff_of_none {cs : List Char} {pieces : List Nat}
    (h : splitDoubleColon cs = none) :
    readIpv6? cs = some pieces ↔ ipv6Pieces? cs = some pieces ∧ pieces.length = 8 := by
  unfold readIpv6?
  simp only [h, Option.bind_eq_bind, Option.bind_eq_some_iff, Option.ite_none_right_eq_some,
    Option.some.injEq]
  constructor
  · rintro ⟨read, hread, hlength, rfl⟩
    exact ⟨hread, hlength⟩
  · rintro ⟨hread, hlength⟩
    exact ⟨pieces, hread, hlength, rfl⟩

theorem readIpv6?_eq_some_iff_of_some {cs before after : List Char} {pieces : List Nat}
    (h : splitDoubleColon cs = some (before, after)) :
    readIpv6? cs = some pieces ↔ '.' ∉ before ∧ ∃ front back,
      ipv6Pieces? before = some front ∧ ipv6Pieces? after = some back ∧
      front.length + back.length < 8 ∧
      front ++ List.replicate (8 - (front.length + back.length)) 0 ++ back = pieces := by
  unfold readIpv6?
  simp only [h]
  by_cases hdot : '.' ∈ before
  · simp [hdot]
  · simp [hdot, Option.bind_eq_some_iff, Nat.sub_eq_zero_iff_le]

/-- An address is written with all its pieces, or without a run of zeros. -/
theorem renderIpv6_cases (pieces : List Nat) :
    renderIpv6 pieces = hexText pieces ∨ ∃ before length after,
      pieces = before ++ List.replicate length 0 ++ after ∧ 2 ≤ length ∧
        renderIpv6 pieces = hexText before ++ ':' :: ':' :: hexText after := by
  have hnone : IsZeroRun pieces (0, 0) := ⟨[], pieces, rfl, rfl⟩
  have hrun := @longestZeros_spec [] pieces 0 0 (0, 0) rfl hnone
  change IsZeroRun pieces (longestZeros 0 0 (0, 0) pieces) at hrun
  unfold renderIpv6
  generalize longestZeros 0 0 (0, 0) pieces = run at hrun
  obtain ⟨start, length⟩ := run
  obtain ⟨before, after, hpieces, hstart⟩ := hrun
  simp only at hpieces hstart ⊢
  split
  · exact .inl rfl
  · next hlength =>
    refine .inr ⟨before, length, after, hpieces, Nat.not_lt.1 hlength, ?_⟩
    have htake : pieces.take start = before := by
      rw [hpieces, ← hstart, List.append_assoc, List.take_left]
    have hdrop : pieces.drop (start + length) = after := by
      rw [hpieces, ← hstart, List.drop_left' (by simp)]
    rw [htake, hdrop]
    simp [hexText]

/-- Eight pieces of 16 bits are read back. -/
theorem readIpv6?_renderIpv6 {pieces : List Nat} (h : EightPieces pieces) :
    readIpv6? (renderIpv6 pieces) = some pieces := by
  cases renderIpv6_cases pieces with
  | inl hall =>
    have hsplit := splitDoubleColon_hexText pieces []
    rw [List.append_nil] at hsplit
    rw [hall, readIpv6?_eq_some_iff_of_none hsplit]
    exact ⟨ipv6Pieces?_hexText h.lt, h.length_eq⟩
  | inr hsome =>
    obtain ⟨before, length, after, rfl, hlength, hrender⟩ := hsome
    have hsplit := splitDoubleColon_hexText before (':' :: ':' :: hexText after)
    simp only [splitDoubleColon, Option.map_some, List.append_nil] at hsplit
    rw [hrender, readIpv6?_eq_some_iff_of_some hsplit]
    -- as many zeros are put back as were left out
    have height := h.length_eq
    rw [List.length_append, List.length_append, List.length_replicate] at height
    have hmissing : 8 - (before.length + after.length) = length := by omega
    refine ⟨dot_not_mem_hexText before, before, after, ipv6Pieces?_hexText fun p hp => ?_,
      ipv6Pieces?_hexText fun p hp => ?_, by omega, by rw [hmissing]⟩
    · exact h.lt p (List.mem_append_left _ (List.mem_append_left _ hp))
    · exact h.lt p (List.mem_append_right _ hp)

theorem mem_renderIpv6 {pieces : List Nat} {c : Char} (h : c ∈ renderIpv6 pieces) :
    c = ':' ∨ ∃ d < 16, c = Nat.digitChar d := by
  cases renderIpv6_cases pieces with
  | inl hall =>
    rw [hall] at h
    exact mem_hexText h
  | inr hsome =>
    obtain ⟨before, length, after, -, -, hrender⟩ := hsome
    rw [hrender] at h
    simp only [List.mem_append, List.mem_cons] at h
    rcases h with h | h | h | h
    · exact mem_hexText h
    · exact .inl h
    · exact .inl h
    · exact mem_hexText h

end Catalog.Url
