import Catalog.Http.Request
import Catalog.Proofs.EncodedText
import Catalog.Proofs.PageAddress
import Catalog.Proofs.Traversal
import Mathlib.Algebra.GroupWithZero.Nat

/-!
# Addresses of list requests

A client writes the parameters of a listing into the query of an address, in any order and with any
encoding of their texts. The query is read as these parameters; lengths are checked at the end.

## Key results

- `ListParams.foldlM_take_perm`: the order of the parameters does not matter
- `ListParams.ofQuery_joinWith`: a query is read as the parameters it was written from
- `ListParams.Address.utf8ByteSize_le`: texts of the lengths that are allowed fit into an address
- `ListParams.Address.create`: the address makes a request, and what is read from it
-/

namespace Catalog

/-! ## Parts of a query -/

/-- A part of a query that names a value. -/
def Form.WritesPair (pair : String × String) (part : List Char) : Prop :=
  ∃ name value, Form.Written pair.1 name ∧ Form.Written pair.2 value ∧
    part = name ++ '=' :: value

/-- The parts of a query are read as the pairs that they were written from. -/
theorem Form.pairs_joinWith {pairs : List (String × String)} {parts : List (List Char)}
    (h : List.Forall₂ WritesPair pairs parts) (hnames : ∀ pair ∈ pairs, '=' ∉ pair.1.toList) :
    Form.pairs (Text.joinWith '&' parts) = pairs := by
  have hampersand : ∀ part ∈ parts, '&' ∉ part := by
    intro part hpart
    obtain ⟨pair, -, name, value, hname, hvalue, rfl⟩ := exists_of_forall₂_right h hpart
    simp only [List.mem_append, List.mem_cons, not_or]
    exact ⟨hname.ampersand_not_mem, by decide, hvalue.ampersand_not_mem⟩
  have hsplit : (Text.splitOn '&' (Text.joinWith '&' parts)).filter (fun part => !part.isEmpty) =
      parts := by
    cases parts with
    | nil => rfl
    | cons part rest =>
      rw [Text.splitOn_joinWith (List.cons_ne_nil part rest) hampersand, List.filter_eq_self]
      -- every part has its equals sign
      intro part hpart
      obtain ⟨pair, -, name, value, -, -, rfl⟩ := exists_of_forall₂_right h hpart
      cases name <;> rfl
  rw [Form.pairs, hsplit]
  clear hsplit hampersand
  induction h with
  | nil => rfl
  | cons hpair _ ih =>
    obtain ⟨hequals, hnames⟩ := List.forall_mem_cons.1 hnames
    obtain ⟨name, value, hname, hvalue, rfl⟩ := hpair
    rw [List.map_cons, ih hnames, Text.splitFirst?_append (hname.equals_not_mem hequals)]
    simp only [hname.decode, hvalue.decode]

namespace ListParams

/-! ## Parameters in any order -/

/-- The parameters that are present, with their names. -/
def present (p : ListParams) : List (String × String) :=
  (p.filter.map (("filter", ·))).toList ++ ((p.sort.map (("sort", ·))).toList ++
    ((p.page.map fun n => ("page", toString n.toNat)).toList ++
      (p.pageSize.map fun n => ("pageSize", toString n.toNat)).toList))

theorem mem_present_iff {p : ListParams} {pair : String × String} :
    pair ∈ p.present ↔ (∃ s, p.filter = some s ∧ ("filter", s) = pair) ∨
      (∃ s, p.sort = some s ∧ ("sort", s) = pair) ∨
      (∃ n, p.page = some n ∧ ("page", toString n.toNat) = pair) ∨
      ∃ n, p.pageSize = some n ∧ ("pageSize", toString n.toNat) = pair := by
  simp only [present, List.mem_append, Option.mem_toList, Option.map_eq_some_iff]

/-- No name stands twice. -/
theorem nodup_present (p : ListParams) : (p.present.map Prod.fst).Nodup := by
  obtain ⟨_ | filter, _ | sort, _ | page, _ | pageSize⟩ := p <;> simp [present]

theorem equals_not_mem_present (p : ListParams) : ∀ pair ∈ p.present, '=' ∉ pair.1.toList := by
  intro pair hpair
  obtain ⟨_, -, rfl⟩ | ⟨_, -, rfl⟩ | ⟨_, -, rfl⟩ | ⟨_, -, rfl⟩ := mem_present_iff.1 hpair
  · exact show '=' ∉ "filter".toList by decide
  · exact show '=' ∉ "sort".toList by decide
  · exact show '=' ∉ "page".toList by decide
  · exact show '=' ∉ "pageSize".toList by decide

private theorem toString_toNat_inj {m n : UInt64} (h : toString m.toNat = toString n.toNat) :
    m = n := by
  have hread := readNumber_toString "" m
  rw [h, readNumber_toString "" n] at hread
  exact (Except.ok.inj hread).symm

/-- Parameters are told from what is present. -/
theorem eq_of_perm_present {p q : ListParams} (h : p.present.Perm q.present) : p = q := by
  have hfilter : ∀ (p : ListParams) s, p.filter = some s ↔ ("filter", s) ∈ p.present := by
    intro p s
    simp [mem_present_iff]
  have hsort : ∀ (p : ListParams) s, p.sort = some s ↔ ("sort", s) ∈ p.present := by
    intro p s
    simp [mem_present_iff]
  have hpage : ∀ (p : ListParams) n, p.page = some n ↔ ("page", toString n.toNat) ∈ p.present := by
    intro p n
    simp only [mem_present_iff, Prod.mk.injEq, String.reduceEq, false_and, true_and, and_false,
      exists_false, false_or, or_false]
    exact ⟨fun hn => ⟨n, hn, rfl⟩, fun ⟨m, hm, h⟩ => toString_toNat_inj h ▸ hm⟩
  have hpageSize : ∀ (p : ListParams) n,
      p.pageSize = some n ↔ ("pageSize", toString n.toNat) ∈ p.present := by
    intro p n
    simp only [mem_present_iff, Prod.mk.injEq, String.reduceEq, false_and, true_and, and_false,
      exists_false, false_or]
    exact ⟨fun hn => ⟨n, hn, rfl⟩, fun ⟨m, hm, h⟩ => toString_toNat_inj h ▸ hm⟩
  have hf : p.filter = q.filter := Option.ext fun s => by rw [hfilter, hfilter, h.mem_iff]
  have hs : p.sort = q.sort := Option.ext fun s => by rw [hsort, hsort, h.mem_iff]
  have hp : p.page = q.page := Option.ext fun n => by rw [hpage, hpage, h.mem_iff]
  have hz : p.pageSize = q.pageSize := Option.ext fun n => by rw [hpageSize, hpageSize, h.mem_iff]
  cases p
  cases q
  simp only at hf hs hp hz
  rw [hf, hs, hp, hz]

/-- A parameter that is not there yet is taken in. -/
theorem take_of_mem {p q : ListParams} {pair : String × String} (hpair : pair ∈ q.present)
    (hfresh : pair.1 ∉ p.present.map Prod.fst) :
    ∃ p', p.take pair = .ok p' ∧ p'.present.Perm (pair :: p.present) := by
  obtain ⟨filter, sort, page, pageSize⟩ := p
  obtain ⟨s, -, rfl⟩ | ⟨s, -, rfl⟩ | ⟨n, -, rfl⟩ | ⟨n, -, rfl⟩ := mem_present_iff.1 hpair
  · cases filter with
    | some _ => exact absurd (by simp [present]) hfresh
    | none => exact ⟨⟨some s, sort, page, pageSize⟩, rfl, List.Perm.refl _⟩
  · cases sort with
    | some _ => exact absurd (by simp [present]) hfresh
    | none => exact ⟨⟨filter, some s, page, pageSize⟩, rfl, List.perm_middle⟩
  · cases page with
    | some _ => exact absurd (by simp [present]) hfresh
    | none =>
      refine ⟨⟨filter, sort, some n, pageSize⟩, ?_, ?_⟩
      · simp only [take, once, readNumber_toString, Except.map]
      · exact (List.perm_middle.append_left _).trans List.perm_middle
  · cases pageSize with
    | some _ => exact absurd (by simp [present]) hfresh
    | none =>
      refine ⟨⟨filter, sort, page, some n⟩, ?_, ?_⟩
      · simp only [take, once, readNumber_toString, Except.map]
      · exact (((List.perm_middle.append_left _).trans List.perm_middle).append_left _).trans
          List.perm_middle

/-- Parameters are taken in in any order. -/
theorem foldlM_take_perm {p q : ListParams} {pairs : List (String × String)}
    (h : (p.present ++ pairs).Perm q.present) : pairs.foldlM take p = .ok q := by
  -- what is present and what is still to come make up `q` at every step
  induction pairs generalizing p with
  | nil =>
    rw [List.append_nil] at h
    rw [eq_of_perm_present h]
    rfl
  | cons pair rest ih =>
    have hmem : pair ∈ q.present := h.subset (List.mem_append_right _ List.mem_cons_self)
    have hfresh : pair.1 ∉ p.present.map Prod.fst := by
      have hnodup := (h.map Prod.fst).nodup_iff.2 q.nodup_present
      rw [List.map_append, List.map_cons, List.perm_middle.nodup_iff, List.nodup_cons] at hnodup
      exact fun hp => hnodup.1 (List.mem_append_left _ hp)
    obtain ⟨p', htake, hperm⟩ := take_of_mem hmem hfresh
    rw [List.foldlM_cons, htake]
    exact ih (((hperm.append_right rest).trans List.perm_middle.symm).trans h)

/-- A query is read as the parameters it was written from; then their lengths are checked. -/
theorem ofQuery_joinWith {q : ListParams} {pairs : List (String × String)}
    {parts : List (List Char)} (hpairs : pairs.Perm q.present)
    (hparts : List.Forall₂ Form.WritesPair pairs parts) :
    ofQuery (Text.joinWith '&' parts) = q.checkLengths := by
  have hnames : ∀ pair ∈ pairs, '=' ∉ pair.1.toList :=
    fun pair hpair => q.equals_not_mem_present pair (hpairs.mem_iff.1 hpair)
  rw [ofQuery, Form.pairs_joinWith hparts hnames,
    foldlM_take_perm (by simpa [present] using hpairs)]
  rfl

/-! ## Addresses -/

/-- An address that asks for a list with the given parameters. Without any, the query may be left
out. -/
inductive Address (q : ListParams) : String → Prop where
  | bare (h : q.present = []) : Address q "/movies"
  | query {pairs : List (String × String)} {parts : List (List Char)}
      (hpairs : pairs.Perm q.present) (hparts : List.Forall₂ Form.WritesPair pairs parts) :
      Address q ("/movies?" ++ String.ofList (Text.joinWith '&' parts))

/-- The address with the parameters in their usual order. -/
def address (q : ListParams) : String :=
  "/movies?" ++ String.ofList (Text.joinWith '&'
    (q.present.map fun pair => Form.encode pair.1 ++ '=' :: Form.encode pair.2))

theorem address_spec (q : ListParams) : q.Address q.address := by
  refine .query (List.Perm.refl q.present) (List.forall₂_map_right_iff.2 ?_)
  exact List.forall₂_same.2 fun pair _ =>
    ⟨_, _, Form.written_encode pair.1, Form.written_encode pair.2, rfl⟩

end ListParams

theorem Form.WritesPair.isQueryChar {pair : String × String} {part : List Char}
    (h : WritesPair pair part) : ∀ c ∈ part, RequestTarget.isQueryChar c = true := by
  obtain ⟨name, value, hname, hvalue, rfl⟩ := h
  intro c hc
  rcases List.mem_append.1 hc with hc | hc
  · exact hname.isQueryChar c hc
  rcases List.mem_cons.1 hc with rfl | hc
  · decide
  · exact hvalue.isQueryChar c hc

theorem Form.WritesPair.utf8ByteSize_le {pair : String × String} {part : List Char}
    (h : WritesPair pair part) : (String.ofList part).utf8ByteSize ≤
      3 * (pair.1.utf8ByteSize + pair.2.utf8ByteSize) + 1 := by
  obtain ⟨name, value, hname, hvalue, rfl⟩ := h
  have hname := hname.utf8ByteSize_le
  have hvalue := hvalue.utf8ByteSize_le
  have hequals : '='.utf8Size = 1 := rfl
  rw [String.ofList_append, String.ofList_cons, String.utf8ByteSize_append,
    String.utf8ByteSize_append, String.utf8ByteSize_singleton, hequals]
  omega

/-- The greatest sizes of parts and of the separators between them add up. -/
theorem Form.utf8ByteSize_joinWith_le {pairs : List (String × String)} {parts : List (List Char)}
    (h : List.Forall₂ WritesPair pairs parts) :
    (String.ofList (Text.joinWith '&' parts)).utf8ByteSize ≤
      (pairs.map fun pair => 3 * (pair.1.utf8ByteSize + pair.2.utf8ByteSize) + 2).sum := by
  induction h with
  | nil => exact Nat.le_refl 0
  | @cons pair part pairs parts hpair hrest ih =>
    have hpart := hpair.utf8ByteSize_le
    rw [List.map_cons, List.sum_cons]
    cases parts with
    | nil => rw [Text.joinWith]; omega
    | cons next rest =>
      have hampersand : '&'.utf8Size = 1 := rfl
      rw [Text.joinWith, String.ofList_append, String.ofList_cons, String.utf8ByteSize_append,
        String.utf8ByteSize_append, String.utf8ByteSize_singleton, hampersand]
      · omega
      · exact List.cons_ne_nil next rest

namespace ListParams

/-! ## Lengths -/

/-- Filter and sort are no longer than allowed. -/
def Fits (q : ListParams) : Prop :=
  (∀ text ∈ q.filter, text.utf8ByteSize ≤ 8192) ∧ ∀ text ∈ q.sort, text.utf8ByteSize ≤ 1024

theorem isLonger_eq_true_iff {limit : Nat} {text : Option String} :
    isLonger limit text = true ↔ ∃ s ∈ text, limit < s.utf8ByteSize := by
  cases text with
  | none => simp [isLonger]
  | some s => simp [isLonger]

theorem checkLengths_of_fits {q : ListParams} (h : q.Fits) : q.checkLengths = .ok q := by
  have hfilter : ¬ isLonger maxFilterLength q.filter = true := by
    rw [isLonger_eq_true_iff]
    rintro ⟨s, hs, hlong⟩
    exact Nat.not_lt.2 (h.1 s hs) hlong
  have hsort : ¬ isLonger maxSortLength q.sort = true := by
    rw [isLonger_eq_true_iff]
    rintro ⟨s, hs, hlong⟩
    exact Nat.not_lt.2 (h.2 s hs) hlong
  rw [checkLengths, if_neg hfilter, if_neg hsort]

/-- A text that is too long is told by its name. -/
theorem exists_fault_of_not_fits {q : ListParams} (h : ¬ q.Fits) :
    ∃ fault, q.checkLengths = .error fault ∧
      ((fault = .filterTooLong ∧ ∃ text ∈ q.filter, 8192 < text.utf8ByteSize) ∨
        (fault = .sortTooLong ∧ ∃ text ∈ q.sort, 1024 < text.utf8ByteSize)) := by
  rw [checkLengths]
  split
  · next hfilter => exact ⟨_, rfl, .inl ⟨rfl, isLonger_eq_true_iff.1 hfilter⟩⟩
  split
  · next hsort => exact ⟨_, rfl, .inr ⟨rfl, isLonger_eq_true_iff.1 hsort⟩⟩
  · next hfilter hsort =>
    rw [isLonger_eq_true_iff] at hfilter hsort
    refine absurd ⟨fun s hs => ?_, fun s hs => ?_⟩ h
    · exact Nat.not_lt.1 fun hlong => hfilter ⟨s, hs, hlong⟩
    · exact Nat.not_lt.1 fun hlong => hsort ⟨s, hs, hlong⟩

/-- Names and values grow at most threefold. -/
theorem Address.utf8ByteSize_le_sum {q : ListParams} {address : String} (h : q.Address address) :
    address.utf8ByteSize ≤
      8 + (q.present.map fun pair => 3 * (pair.1.utf8ByteSize + pair.2.utf8ByteSize) + 2).sum := by
  have hfront : "/movies?".utf8ByteSize = 8 := rfl
  cases h with
  | bare h =>
    have hbare : "/movies".utf8ByteSize = 7 := rfl
    omega
  | @query pairs parts hpairs hparts =>
    have hquery := Form.utf8ByteSize_joinWith_le hparts
    rw [(hpairs.map _).sum_nat] at hquery
    rw [String.utf8ByteSize_append, hfront]
    omega

/-- Texts of the lengths that are allowed fit into an address, whatever their encoding. -/
theorem Address.utf8ByteSize_le {q : ListParams} {address : String} (h : q.Address address)
    (hfits : q.Fits) : address.utf8ByteSize ≤ RequestTarget.maxLength := by
  have hnames : "filter".utf8ByteSize = 6 ∧ "sort".utf8ByteSize = 4 ∧
      "page".utf8ByteSize = 4 ∧ "pageSize".utf8ByteSize = 8 := ⟨rfl, rfl, rfl, rfl⟩
  have hnumber : ∀ n : UInt64, (toString n.toNat).utf8ByteSize ≤ 80 := by
    intro n
    have hbytes := utf8ByteSize_ofList_le (Nat.toDigits 10 n.toNat)
    have hdigits := length_toDigits_le n
    show (String.ofList (Nat.toDigits 10 n.toNat)).utf8ByteSize ≤ 80
    omega
  -- a parameter that is absent adds nothing
  have hpart : ∀ {α : Type} (o : Option α) (f : α → String × String) (bound : Nat),
      (∀ x ∈ o, 3 * ((f x).1.utf8ByteSize + (f x).2.utf8ByteSize) + 2 ≤ bound) →
      ((o.map f).toList.map fun pair =>
        3 * (pair.1.utf8ByteSize + pair.2.utf8ByteSize) + 2).sum ≤ bound := by
    intro α o f bound hbound
    cases o with
    | none => exact Nat.zero_le bound
    | some x => simpa using hbound x rfl
  have hfilter := hpart q.filter (("filter", ·)) 24596 fun s hs => by
    have := hfits.1 s hs
    simp only [hnames]
    omega
  have hsort := hpart q.sort (("sort", ·)) 3086 fun s hs => by
    have := hfits.2 s hs
    simp only [hnames]
    omega
  have hpage := hpart q.page (fun n => ("page", toString n.toNat)) 254 fun n _ => by
    have := hnumber n
    simp only [hnames]
    omega
  have hpageSize := hpart q.pageSize (fun n => ("pageSize", toString n.toNat)) 266 fun n _ => by
    have := hnumber n
    simp only [hnames]
    omega
  have hsum := h.utf8ByteSize_le_sum
  rw [present, List.map_append, List.map_append, List.map_append, List.sum_append,
    List.sum_append, List.sum_append] at hsum
  have hmax : RequestTarget.maxLength = 65534 := rfl
  omega

end ListParams

/-! ## Requests -/

/-- A method, a target and headers that can be read make a request. -/
theorem Request.exists_create {method address : String} {headers : List (String × String)}
    {target : RequestTarget} (hmethod : isToken method = true)
    (htarget : RequestTarget.parse address = .ok target)
    (hheaders : headers.forM checkHeader = .ok ()) :
    ∃ id, Request.create method address headers = .ok ⟨method, target, id⟩ := by
  refine ⟨(headers.find? fun h =>
    Text.sameIgnoringCase h.1.toList "x-request-id".toList).map (·.2), ?_⟩
  rw [create, hmethod, htarget, hheaders]
  rfl

/-- The address makes a request for the movies, and its query is read as the parameters. -/
theorem ListParams.Address.create {q : ListParams} {address : String} (h : q.Address address)
    (hsize : address.utf8ByteSize ≤ RequestTarget.maxLength) {headers : List (String × String)}
    (hheaders : headers.forM Request.checkHeader = .ok ()) :
    ∃ query id, Request.create "GET" address headers =
        .ok ⟨"GET", .path false "/movies".toList query, id⟩ ∧
      ListParams.ofQuery (query.getD []) = q.checkLengths := by
  have htoken : Request.isToken "GET" = true := by decide
  cases h with
  | bare h =>
    obtain ⟨id, hcreate⟩ := Request.exists_create htoken
      (show RequestTarget.parse "/movies" = .ok (.path false "/movies".toList none) by rfl) hheaders
    exact ⟨none, id, hcreate, ofQuery_joinWith (h ▸ List.Perm.refl _) .nil⟩
  | @query pairs parts hpairs hparts =>
    have hchars : ∀ c ∈ Text.joinWith '&' parts, RequestTarget.isQueryChar c = true := by
      refine Text.forall_mem_joinWith (by decide) fun part hpart => ?_
      obtain ⟨pair, -, hwrites⟩ := exists_of_forall₂_right hparts hpart
      exact hwrites.isQueryChar
    have hparse : RequestTarget.parse ("/movies?" ++ String.ofList (Text.joinWith '&' parts)) =
        .ok (.path false "/movies".toList (some (Text.joinWith '&' parts))) := by
      have htext : ("/movies?" ++ String.ofList (Text.joinWith '&' parts)).toList =
          '/' :: ("movies".toList ++ '?' :: Text.joinWith '&' parts) := by
        simp only [String.toList_append, String.toList_ofList]
        rfl
      have hpath : ∀ c ∈ "/movies".toList, RequestTarget.isPathChar c = true :=
        List.all_eq_true.1 (by decide)
      have hread := RequestTarget.readPath_append hpath hchars
      exact (RequestTarget.parse_eq_ok_iff htext).2 ⟨hsize, htext ▸ hread⟩
    obtain ⟨id, hcreate⟩ := Request.exists_create htoken hparse hheaders
    exact ⟨_, id, hcreate, ofQuery_joinWith hpairs hparts⟩

end Catalog
