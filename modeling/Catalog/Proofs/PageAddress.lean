import Catalog.Http.Request
import Catalog.Links.Page
import Catalog.Proofs.Digits
import Catalog.Proofs.Pieces
import Catalog.Query.Params

/-!
# Addresses of pages

The address that a link writes for a page of the movies is a request for just that page: no filter,
no sort, the number of the page and its size.

## Key results

- `ListParams.ofQuery_queryOf`: what the query of the address asks for
- `Request.create_ofPage`: the request that the address makes
-/

namespace Catalog

/-! ## Texts that stand for themselves -/

/-- ASCII characters are decoded from their single bytes. -/
theorem Text.decodeLossy_ascii {cs : List Char} (h : ∀ c ∈ cs, c.toNat < 0x80) :
    Text.decodeLossy (cs.map fun c => c.toNat.toUInt8) = cs := by
  -- byte by byte, the decoder stays in its start state
  have hfrom : Text.decodeFrom .start (cs.map fun c => c.toNat.toUInt8) = cs.map some := by
    induction cs with
    | nil => rfl
    | cons c cs ih =>
      have hc := h c List.mem_cons_self
      have hbyte : c.toNat.toUInt8.toNat = c.toNat := by
        rw [Nat.toUInt8_eq, UInt8.toNat_ofNat', Nat.mod_eq_of_lt (by omega)]
      have hlt : c.toNat.toUInt8 < 0x80 := by
        rw [UInt8.lt_iff_toNat_lt, hbyte]
        exact hc
      have hstep : Text.DecoderState.step .start c.toNat.toUInt8 = (.start, [some c]) := by
        rw [Text.DecoderState.step, if_pos hlt, hbyte, Char.ofNat_toNat]
      have hcons : ∀ (b : UInt8) (bs : List UInt8), Text.decodeFrom .start (b :: bs) =
          (Text.DecoderState.step .start b).2 ++
            Text.decodeFrom (Text.DecoderState.step .start b).1 bs := fun _ _ => rfl
      rw [List.map_cons, hcons, hstep, ih fun d hd => h d (List.mem_cons_of_mem c hd)]
      rfl
  rw [Text.decodeLossy, hfrom, List.map_map]
  exact List.map_id' cs

/-- Without percent signs, ASCII characters are their own bytes. -/
theorem Percent.decode_plain {cs : List Char} (h : ∀ c ∈ cs, c.toNat < 0x80 ∧ c ≠ '%') :
    Percent.decode cs = cs.map fun c => c.toNat.toUInt8 := by
  induction cs with
  | nil => rw [Percent.decode, List.map_nil]
  | cons c cs ih =>
    obtain ⟨hascii, hpercent⟩ := h c List.mem_cons_self
    have hbytes : Text.utf8Bytes c = [c.toNat.toUInt8] := by
      rw [Text.utf8Bytes, if_pos hascii]
    rw [Percent.decode, ih fun d hd => h d (List.mem_cons_of_mem c hd), hbytes]
    · rfl
    · -- no escape starts here
      rintro a b rest hc
      exact absurd hc hpercent

/-- An ASCII character that stands for itself in a query. -/
def Form.isPlain (c : Char) : Bool :=
  c.toNat < 0x80 && c != '%' && c != '+'

/-- Plain characters are decoded to themselves. -/
theorem Form.decode_plain {cs : List Char} (h : cs.all Form.isPlain = true) :
    Form.decode cs = String.ofList cs := by
  have hplain : ∀ c ∈ cs, (c.toNat < 0x80 ∧ c ≠ '%') ∧ c ≠ '+' := by
    intro c hc
    have := List.all_eq_true.1 h c hc
    rwa [isPlain, Bool.and_eq_true, Bool.and_eq_true, decide_eq_true_eq, bne_iff_ne,
      bne_iff_ne] at this
  -- no plus sign stands for a space
  have hspaced : (cs.map fun c => if c = '+' then ' ' else c) = cs := by
    conv => rhs; rw [← List.map_id' cs]
    exact List.map_congr_left fun c hc => if_neg (hplain c hc).2
  rw [Form.decode, hspaced, Percent.decode_plain fun c hc => (hplain c hc).1,
    Text.decodeLossy_ascii fun c hc => (hplain c hc).1.1]

theorem Form.decode_toDigits (n : Nat) : Form.decode (Nat.toDigits 10 n) = toString n := by
  refine Form.decode_plain (List.all_eq_true.2 fun c hc => ?_)
  obtain ⟨hlow, hhigh⟩ := (Text.isAsciiDigit_iff c).1 (Numeral.isAsciiDigit_of_mem_toDigits hc)
  rw [isPlain, Bool.and_eq_true, Bool.and_eq_true, decide_eq_true_eq, bne_iff_ne, bne_iff_ne]
  refine ⟨⟨by omega, ?_⟩, ?_⟩ <;> rintro rfl <;> exact absurd hlow (by decide)

theorem Numeral.not_mem_toDigits {c : Char} (h : Text.isAsciiDigit c = false) (n : Nat) :
    c ∉ Nat.toDigits 10 n := by
  intro hm
  rw [Numeral.isAsciiDigit_of_mem_toDigits hm] at h
  cases h

/-! ## The query of an address -/

/-- The query that a link writes for a page. -/
def PageLink.queryOf (page size : UInt64) : List Char :=
  ("page=".toList ++ Nat.toDigits 10 page.toNat) ++
    '&' :: ("pageSize=".toList ++ Nat.toDigits 10 size.toNat)

/-- The query follows the base of the address. -/
theorem PageLink.toList_ofPage (base : String) (page size : UInt64) :
    (PageLink.ofPage base page size).toList = base.toList ++ '?' :: queryOf page size := by
  have hdigits : ∀ n : Nat, (toString n).toList = Nat.toDigits 10 n := fun n => Nat.toList_repr
  simp only [ofPage, queryOf, String.toList_append, hdigits, List.append_assoc]
  rfl

/-- A part of a query that names a number. -/
private theorem Form.pair_of_number (name : String) (hname : name.toList.all Form.isPlain = true)
    (hequals : '=' ∉ name.toList) (n : Nat) :
    (match Text.splitFirst? '=' (name.toList ++ '=' :: Nat.toDigits 10 n) with
      | some (name, value) => (Form.decode name, Form.decode value)
      | none => (Form.decode (name.toList ++ '=' :: Nat.toDigits 10 n), "")) =
      (name, toString n) := by
  rw [Text.splitFirst?_append hequals]
  show (Form.decode name.toList, Form.decode (Nat.toDigits 10 n)) = _
  rw [Form.decode_plain hname, Form.decode_toDigits, String.ofList_toList]

/-- The query of a page names its number and its size. -/
theorem Form.pairs_queryOf (page size : UInt64) :
    Form.pairs (PageLink.queryOf page size) =
      [("page", toString page.toNat), ("pageSize", toString size.toNat)] := by
  -- neither part can be cut again
  have hpart : ∀ (name : String) (n : Nat), '&' ∉ name.toList →
      Text.splitOn '&' (name.toList ++ Nat.toDigits 10 n) = [name.toList ++ Nat.toDigits 10 n] := by
    intro name n hname
    refine Text.splitOn_of_not_mem ?_
    rw [List.mem_append, not_or]
    exact ⟨hname, Numeral.not_mem_toDigits (by decide) n⟩
  rw [Form.pairs, PageLink.queryOf, Text.splitOn_append_sep, hpart "page=" _ (by decide),
    hpart "pageSize=" _ (by decide)]
  show [_, _] = _
  congr 1
  · exact Form.pair_of_number "page" (by decide) (by decide) page.toNat
  · congr 1
    exact Form.pair_of_number "pageSize" (by decide) (by decide) size.toNat

/-- A number of the query is read back. -/
theorem ListParams.readNumber_toString (name : String) (n : UInt64) :
    readNumber name (toString n.toNat) = .ok n := by
  have hdigits : (toString n.toNat).toList = Nat.toDigits 10 n.toNat := Nat.toList_repr
  simp only [readNumber, hdigits, Numeral.readUInt64_toDigits]

/-- The query of a page asks for nothing but the page and its size. -/
theorem ListParams.ofQuery_queryOf (page size : UInt64) :
    ListParams.ofQuery (PageLink.queryOf page size) =
      .ok { page := some page, pageSize := some size } := by
  have hpage : take {} ("page", toString page.toNat) = .ok { page := some page } := by
    simp only [take, once, readNumber_toString, Except.map]
  have hsize : take { page := some page } ("pageSize", toString size.toNat) =
      .ok { page := some page, pageSize := some size } := by
    simp only [take, once, readNumber_toString, Except.map]
  rw [ofQuery, Form.pairs_queryOf, List.foldlM_cons, hpage]
  show (List.foldlM take _ [("pageSize", toString size.toNat)] >>= checkLengths) = _
  rw [List.foldlM_cons, hsize]
  rfl

/-! ## The request for a page -/

/-- A text has at most four bytes for each character. -/
theorem utf8ByteSize_ofList_le (cs : List Char) :
    (String.ofList cs).utf8ByteSize ≤ 4 * cs.length := by
  induction cs with
  | nil => decide
  | cons c cs ih =>
    rw [String.ofList_cons, String.utf8ByteSize_append, String.utf8ByteSize_singleton,
      List.length_cons]
    have := c.utf8Size_le_four
    omega

/-- A number of 64 bits has at most twenty digits. -/
theorem length_toDigits_le (n : UInt64) : (Nat.toDigits 10 n.toNat).length ≤ 20 := by
  rw [Nat.length_toDigits_le_iff (by decide) (by decide)]
  exact Nat.lt_of_lt_of_le n.toNat_lt (by decide)

/-- Every character of the query of a page may stand in a query. -/
theorem PageLink.isQueryChar_of_mem {page size : UInt64} {c : Char}
    (h : c ∈ PageLink.queryOf page size) : RequestTarget.isQueryChar c = true := by
  have hdigit : ∀ n : Nat, c ∈ Nat.toDigits 10 n → RequestTarget.isQueryChar c = true := by
    intro n hc
    have hc := Numeral.isAsciiDigit_of_mem_toDigits hc
    obtain ⟨hlow, hhigh⟩ := (Text.isAsciiDigit_iff c).1 hc
    rw [RequestTarget.isQueryChar, Bool.and_eq_true, decide_eq_true_eq, decide_eq_true_eq]
    refine ⟨by omega, fun hm => ?_⟩
    simp only [List.mem_cons, List.not_mem_nil, or_false] at hm
    rcases hm with rfl | rfl | rfl | rfl <;> exact absurd hc (by decide)
  have hname : ∀ name : List Char, name.all RequestTarget.isQueryChar = true →
      c ∈ name → RequestTarget.isQueryChar c = true := fun _ hall hc => List.all_eq_true.1 hall c hc
  rw [PageLink.queryOf, List.mem_append, List.mem_append, List.mem_cons, List.mem_append] at h
  rcases h with (h | h) | rfl | h | h
  · exact hname "page=".toList (by decide) h
  · exact hdigit _ h
  · rfl
  · exact hname "pageSize=".toList (by decide) h
  · exact hdigit _ h

/-- A path with a query is read up to its end. -/
theorem RequestTarget.readPath_append {path query : List Char}
    (hpath : ∀ c ∈ path, isPathChar c = true) (hquery : ∀ c ∈ query, isQueryChar c = true) :
    readPath false (path ++ '?' :: query) = .ok (.path false path (some query)) := by
  -- the question mark ends the path, and nothing ends the query
  have hmark : ∀ c ∈ ('?' :: query).head?, isPathChar c = false := by
    rintro c ⟨⟩
    decide
  have htake := Text.takeWhile_append_stop hpath hmark
  have hdrop := Text.dropWhile_append_stop hpath hmark
  have hall := Text.takeWhile_eq_self hquery
  have hrest := Text.dropWhile_eq_nil hquery
  simp only [readPath, htake, hdrop, hall, hrest]

/-- What starts with a slash is read as a path, if it is not too long. -/
theorem RequestTarget.parse_eq_ok_iff {text : String} {cs : List Char} (h : text.toList = '/' :: cs)
    {target : RequestTarget} : parse text = .ok target ↔
      text.utf8ByteSize ≤ maxLength ∧ readPath false text.toList = .ok target := by
  rw [parse, h]
  by_cases hsize : maxLength < text.utf8ByteSize
  · simp [hsize, Nat.not_le.2 hsize]
  · simp [hsize, Nat.not_lt.1 hsize]

/-- The address of a page of the movies, read as a request target. -/
theorem RequestTarget.parse_ofPage (page size : UInt64) :
    RequestTarget.parse (PageLink.ofPage "/movies" page size) =
      .ok (.path false "/movies".toList (some (PageLink.queryOf page size))) := by
  have htext := PageLink.toList_ofPage "/movies" page size
  -- two numbers of twenty digits leave the address far below the bound
  have hlength : (PageLink.ofPage "/movies" page size).utf8ByteSize ≤ maxLength := by
    have hbytes := utf8ByteSize_ofList_le (PageLink.ofPage "/movies" page size).toList
    have hpage := length_toDigits_le page
    have hsize := length_toDigits_le size
    have hnames : "/movies".toList.length = 7 ∧ "page=".toList.length = 5 ∧
        "pageSize=".toList.length = 9 := by decide
    rw [String.ofList_toList, htext, PageLink.queryOf] at hbytes
    simp only [List.length_append, List.length_cons, hnames] at hbytes
    rw [maxLength]
    omega
  have hread : readPath false ("/movies".toList ++ '?' :: PageLink.queryOf page size) =
      .ok (.path false "/movies".toList (some (PageLink.queryOf page size))) :=
    readPath_append (List.all_eq_true.1 (by decide)) fun c hc => PageLink.isQueryChar_of_mem hc
  exact (parse_eq_ok_iff htext).2 ⟨hlength, htext ▸ hread⟩

/-- The address of a page of the movies makes a request for it. -/
theorem Request.create_ofPage (page size : UInt64) :
    Request.create "GET" (PageLink.ofPage "/movies" page size) [] =
      .ok ⟨"GET", .path false "/movies".toList (some (PageLink.queryOf page size)), none⟩ := by
  have htoken : isToken "GET" = true := by decide
  rw [create, htoken, RequestTarget.parse_ofPage]
  rfl

end Catalog
