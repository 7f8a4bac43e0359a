import Catalog.Proofs.ConfiguredLinks
import Catalog.Proofs.ResolvedPaths
import Mathlib.Data.List.DropRight

/-!
# Addresses of a segment

The address of a resource is read and written again to link the resource to itself. For one segment
behind that of the collection, the outcome is the address that was read exactly if the segment is
not split further, needs no encoding and is no dot segment.

## Key results

- `RequestAddress.parse?_path`: a path is read as itself, resolved
- `RequestAddress.parse?_query`: so is it with a query behind it
- `Url.resolveSegments_one`: what becomes of the segment
- `Links.get?_self_iff`: when the resource is linked by the address that was asked for
- `PathSegment.Plain`, `Links.get?_self_plain_iff`: the texts that can be asked for and are linked so
-/

namespace Catalog

namespace Url

/-! ## Reading -/

/-- Nothing is dropped in front of a visible character. -/
theorem dropWhile_edge {cs : List Char} (h : ∀ c ∈ cs.head?, 0x20 < c.toNat) :
    cs.dropWhile (fun c => decide (c.toNat ≤ 0x20)) = cs := by
  cases cs with
  | nil => rfl
  | cons c cs =>
    have := h c rfl
    rw [List.dropWhile_cons_of_neg (by simp; omega)]

/-- No printable character is dropped from inside. -/
theorem filter_kept {cs : List Char} (h : ∀ c ∈ cs, 0x20 ≤ c.toNat) :
    cs.filter (fun c => c != '\t' && c != '\n' && c != '\x0d') = cs := by
  refine List.filter_eq_self.2 fun c hc => ?_
  have := h c hc
  rw [Bool.and_eq_true, Bool.and_eq_true, bne_iff_ne, bne_iff_ne, bne_iff_ne]
  refine ⟨⟨?_, ?_⟩, ?_⟩ <;> rintro rfl <;> exact absurd this (by decide)

/-- Cleaning an address drops nothing from a front without controls and spaces; of what is behind it,
it drops the end and what never counts. -/
theorem clean_append {front : List Char} (hne : front ≠ [])
    (hfront : ∀ c ∈ front, 0x20 < c.toNat) (behind : List Char) :
    clean (String.ofList (front ++ behind)) =
      front ++ (behind.rdropWhile fun c => decide (c.toNat ≤ 0x20)).filter
        fun c => c != '\t' && c != '\n' && c != '\x0d' := by
  -- no character of the front is trimmed from either edge
  have hedge : ∀ cs : List Char, cs ≠ [] → (∀ c ∈ cs, 0x20 < c.toNat) → ∀ rest : List Char,
      (cs ++ rest).dropWhile (fun c => decide (c.toNat ≤ 0x20)) = cs ++ rest := by
    intro cs hcs hall rest
    obtain ⟨d, cs, rfl⟩ := List.exists_cons_of_ne_nil hcs
    refine dropWhile_edge fun c hc => hall c ?_
    obtain rfl : d = c := Option.some.inj hc
    exact List.mem_cons_self
  have hend : ((front ++ behind).reverse.dropWhile fun c => decide (c.toNat ≤ 0x20)).reverse =
      front ++ behind.rdropWhile fun c => decide (c.toNat ≤ 0x20) := by
    have hback := hedge front.reverse (by simpa using hne) (by simpa using hfront) []
    rw [List.append_nil] at hback
    rw [List.reverse_append, List.dropWhile_append, hback, List.rdropWhile]
    split
    · next hnil => simp [List.isEmpty_iff.1 hnil]
    · simp
  have hkept := filter_kept fun c hc => Nat.le_of_lt (hfront c hc)
  rw [clean, String.toList_ofList, hedge front hne hfront, hend, List.filter_append, hkept]

theorem beforeQuery_eq_self {cs : List Char} (h : ∀ c ∈ cs, c ≠ '?' ∧ c ≠ '#') :
    beforeQuery cs = cs :=
  Text.takeWhile_eq_self fun c hc => by simp [h c hc]

end Url

/-- No character of a path is dropped from an address, or ends its path. -/
theorem RequestTarget.of_isPathChar {c : Char} (h : isPathChar c = true) :
    0x20 < c.toNat ∧ c ≠ '?' ∧ c ≠ '#' := by
  simp [isPathChar] at h
  exact ⟨h.1, h.2.2.2.2.1, h.2.1⟩

/-- A path without controls, spaces, query and fragment is read as itself, with its segments
resolved. -/
theorem RequestAddress.parse?_path {c : Char} {cs : List Char}
    (hslash : Url.isSlash .special c = false)
    (h : ∀ d ∈ c :: cs, 0x20 < d.toNat ∧ d ≠ '?' ∧ d ≠ '#') :
    parse? (String.ofList ('/' :: c :: cs)) =
      some ⟨⟨.special, [], Url.pathOf .special ('/' :: c :: cs), false⟩, true⟩ := by
  have hchars : ∀ d ∈ '/' :: c :: cs, 0x20 < d.toNat ∧ d ≠ '?' ∧ d ≠ '#' :=
    List.forall_mem_cons.2 ⟨by decide, h⟩
  have hclean := Url.clean_append (List.cons_ne_nil '/' (c :: cs)) (fun d hd => (hchars d hd).1) []
  simp only [List.append_nil, List.rdropWhile_nil, List.filter_nil] at hclean
  have hbefore := Url.beforeQuery_eq_self fun d hd => (hchars d hd).2
  have hscheme : Url.parseClean ('/' :: c :: cs) = .error .relative := rfl
  unfold parse?
  simp only [hclean, hscheme]
  simp only [Url.parseReference, hslash, hbefore, Bool.and_false, Bool.false_eq_true, if_false]

/-- A query behind such a path is not part of the address. -/
theorem RequestAddress.parse?_query {c : Char} {cs : List Char}
    (hslash : Url.isSlash .special c = false)
    (h : ∀ d ∈ c :: cs, 0x20 < d.toNat ∧ d ≠ '?' ∧ d ≠ '#') (query : List Char) :
    parse? (String.ofList ('/' :: c :: cs ++ '?' :: query)) =
      parse? (String.ofList ('/' :: c :: cs)) := by
  have hchars : ∀ d ∈ '/' :: c :: cs, 0x20 < d.toNat ∧ d ≠ '?' ∧ d ≠ '#' :=
    List.forall_mem_cons.2 ⟨by decide, h⟩
  have hfront : ∀ d ∈ '/' :: c :: cs ++ ['?'], 0x20 < d.toNat :=
    List.forall_mem_append.2 ⟨fun d hd => (hchars d hd).1, by simp⟩
  -- cleaning changes the query at most, and the reader stops in front of it
  have hclean := Url.clean_append (List.append_ne_nil_of_left_ne_nil (List.cons_ne_nil _ _) _)
    hfront query
  generalize List.filter _ _ = rest at hclean
  have hbefore : Url.beforeQuery ('/' :: c :: cs ++ '?' :: rest) = '/' :: c :: cs := by
    apply Text.takeWhile_append_stop
    · intro d hd
      simp [hchars d hd]
    · simp
  have hscheme : Url.parseClean ('/' :: c :: cs ++ '?' :: rest) = .error .relative := rfl
  rw [parse?_path hslash h]
  unfold parse?
  rw [List.append_cons, hclean]
  simp only [List.append_assoc, List.singleton_append, hscheme]
  simp only [List.cons_append, Url.parseReference, hslash, Bool.and_false, Bool.false_eq_true,
    if_false] at hbefore ⊢
  rw [hbefore]

namespace Url

/-! ## Segments -/

/-- What a segment becomes that is added behind another one. -/
theorem resolveSegments_one {name : List Char} (hname : isDriveLetter name = false)
    (segment : List Char) : resolveSegments .special [name] [segment] =
      if isDoubleDot segment then [[]]
      else if isSingleDot segment then [[], name]
      else [Percent.encode Percent.inPath segment, name] := by
  have hshorter : shorten [name] = [] := by simp [shorten, hname]
  simp only [resolveSegments, List.isEmpty_nil, if_true, hshorter]
  split
  · rfl
  split
  · rfl
  · congr 2
    split <;> rfl

/-! ## Paths -/

/-- The path of one segment behind that of the collection. -/
theorem pathOf_movies {segment : List Char} (hslash : '/' ∉ segment) (hback : '\\' ∉ segment) :
    pathOf .special ("/movies/".toList ++ segment) =
      if isDoubleDot segment then "/".toList
      else if isSingleDot segment then "/movies/".toList
      else "/movies/".toList ++ Percent.encode Percent.inPath segment := by
  have hsame : (segment.map fun c => if c = '\\' then '/' else c) = segment := by
    conv => rhs; rw [← List.map_id' segment]
    refine List.map_congr_left fun c hc => if_neg ?_
    rintro rfl
    exact hback hc
  have hsplit : splitSlashes .special ("movies".toList ++ '/' :: segment) =
      ["movies".toList, segment] := by
    have hsplit := Text.splitOn_append_sep '/' "movies".toList segment
    rw [Text.splitOn_of_not_mem hslash] at hsplit
    rw [splitSlashes]
    simp only [SchemeKind.isKnown, if_true, List.map_append, List.map_cons, hsame]
    exact hsplit
  have hpath : pathOf .special ("/movies/".toList ++ segment) =
      joinSegments (resolveSegments .special []
        (splitSlashes .special ("movies".toList ++ '/' :: segment))).reverse.reverse := rfl
  have hfirst : resolveSegments .special [] ["movies".toList, segment] =
      resolveSegments .special ["movies".toList] [segment] := rfl
  rw [hpath, List.reverse_reverse, hsplit, hfirst, resolveSegments_one (by decide)]
  split
  · rfl
  split
  · rfl
  · simp [joinSegments]

end Url

/-! ## Plain segments -/

/-- A visible ASCII character without a meaning of its own in a path. -/
def PathSegment.isPlainChar (c : Char) : Bool :=
  0x21 ≤ c.toNat && c.toNat ≤ 0x7E &&
    !(['"', '#', '/', '<', '>', '?', '\\', '\x60', '\x7b', '\x7d'].contains c)

/-- A text that is the segment of a path as it stands. -/
structure PathSegment.Plain (text : String) : Prop where
  /-- A segment is not empty. -/
  ne_empty : text ≠ ""
  /-- It is made of plain characters. -/
  chars : ∀ c ∈ text.toList, isPlainChar c = true
  /-- None of its percent signs starts an escape. -/
  escapes : Percent.hasEscape text.toList = false
  /-- It is no dot segment. -/
  dots : text ≠ "." ∧ text ≠ ".."

instance (text : String) : Decidable (PathSegment.Plain text) :=
  -- with all, only the characters of the text are looked at
  decidable_of_iff (text ≠ "" ∧ text.toList.all PathSegment.isPlainChar = true ∧
      Percent.hasEscape text.toList = false ∧ text ≠ "." ∧ text ≠ "..")
    ⟨fun ⟨hne, hchars, hescape, hdots⟩ => ⟨hne, List.all_eq_true.1 hchars, hescape, hdots⟩,
      fun ⟨hne, hchars, hescape, hdots⟩ => ⟨hne, List.all_eq_true.2 hchars, hescape, hdots⟩⟩

/-- A plain character is one that a request may hold in a path, that ends no segment and that is
written as it is. -/
theorem PathSegment.isPlainChar_iff (c : Char) : isPlainChar c = true ↔
    RequestTarget.isPathChar c = true ∧ c ≠ '/' ∧ c ≠ '\\' ∧
      c.toNat < 0x80 ∧ Percent.inPath c = false := by
  by_cases hascii : c.toNat < 0x80
  · have hall : ∀ n ∈ List.range 0x80, (isPlainChar (Char.ofNat n) = true ↔
        RequestTarget.isPathChar (Char.ofNat n) = true ∧ Char.ofNat n ≠ '/' ∧ Char.ofNat n ≠ '\\' ∧
          (Char.ofNat n).toNat < 0x80 ∧ Percent.inPath (Char.ofNat n) = false) := by
      decide +kernel
    have hc := hall c.toNat (List.mem_range.2 hascii)
    rwa [Char.ofNat_toNat] at hc
  · refine iff_of_false (fun h => ?_) fun h => hascii h.2.2.2.1
    simp only [isPlainChar, Bool.and_eq_true, decide_eq_true_eq] at h
    omega

/-- Without escapes, the dot segments are the two texts of one and two dots. -/
theorem Url.isDot_iff {segment : List Char} (h : Percent.hasEscape segment = false) :
    (isSingleDot segment = false ∧ isDoubleDot segment = false) ↔
      segment ≠ ['.'] ∧ segment ≠ ['.', '.'] := by
  have hdot : ∀ c : Char, c.toLower = '.' ↔ c = '.' := fun c => Text.toLower_eq_iff (by decide)
  have hescaped : ∀ dots : List Char, Percent.hasEscape dots = true →
      Text.lowerAscii segment ≠ dots := by
    rintro dots hdots rfl
    rw [Percent.hasEscape_lowerAscii, h] at hdots
    cases hdots
  constructor
  · rintro ⟨hsingle, hdouble⟩
    refine ⟨?_, ?_⟩ <;> rintro rfl
    · exact absurd hsingle (by decide)
    · exact absurd hdouble (by decide)
  · rintro ⟨hsingle, hdouble⟩
    rw [isSingleDot, isDoubleDot, decide_eq_false_iff_not, decide_eq_false_iff_not]
    simp only [List.mem_cons, List.not_mem_nil, or_false, not_or]
    -- all other spellings of a dot have an escape
    refine ⟨⟨fun hone => hsingle ?_, hescaped _ (by decide)⟩, fun htwo => hdouble ?_,
      hescaped _ (by decide), hescaped _ (by decide), hescaped _ (by decide)⟩
    · obtain ⟨c, rfl, hc⟩ := List.map_eq_singleton_iff.1 hone
      rw [(hdot c).1 hc]
    · obtain ⟨c, rest, rfl, hc, hrest⟩ := List.map_eq_cons_iff.1 htwo
      obtain ⟨d, rfl, hd⟩ := List.map_eq_singleton_iff.1 hrest
      rw [(hdot c).1 hc, (hdot d).1 hd]

namespace Links

/-- The resource is linked by the address that was asked for exactly if its segment holds no
backslash and nothing that is written otherwise in a path, and is no dot segment. -/
theorem get?_self_iff {segment : List Char} (hne : segment ≠ [])
    (hchars : ∀ c ∈ segment, 0x20 < c.toNat ∧ c ≠ '?' ∧ c ≠ '#') (hslash : '/' ∉ segment)
    (known : List String) (extra : Templates) :
    (ofResource ("/movies/" ++ String.ofList segment) known extra).get? "self" =
        some ("/movies/" ++ String.ofList segment) ↔
      '\\' ∉ segment ∧ Url.isSingleDot segment = false ∧ Url.isDoubleDot segment = false ∧
        ∀ c ∈ segment, c.toNat < 0x80 ∧ Percent.inPath c = false := by
  have htext : "/movies/" ++ String.ofList segment =
      String.ofList ("/movies/".toList ++ segment) := by
    rw [String.ofList_append, String.ofList_toList]
  have hfront : ∀ c ∈ "movies/".toList, 0x20 < c.toNat ∧ c ≠ '?' ∧ c ≠ '#' := by simp
  have hparse : RequestAddress.parse? (String.ofList ("/movies/".toList ++ segment)) =
      some ⟨⟨.special, [], Url.pathOf .special ("/movies/".toList ++ segment), false⟩, true⟩ :=
    RequestAddress.parse?_path rfl (List.forall_mem_append.2 ⟨hfront, hchars⟩)
  rw [htext, get?_self hparse, Option.some_inj]
  show String.ofList (Url.pathOf .special ("/movies/".toList ++ segment)) = _ ↔ _
  rw [String.ofList_inj]
  -- a backslash is written as a slash, so the path comes out different
  by_cases hback : '\\' ∈ segment
  · refine iff_of_false (fun h => ?_) fun h => h.1 hback
    have hsettled := Url.settled_pathOf .special ("/movies/".toList ++ segment)
    exact hsettled.backslash_not_mem rfl (h.symm ▸ List.mem_append_right _ hback)
  rw [Url.pathOf_movies hslash hback, and_iff_right hback]
  cases hdouble : Url.isDoubleDot segment with
  | true => exact iff_of_false nofun fun h => nomatch h.2.1
  | false =>
    cases hsingle : Url.isSingleDot segment with
    | true =>
      -- a dot stands for the empty segment behind the collection
      refine iff_of_false (fun h => ?_) fun h => nomatch h.1
      exact hne (List.self_eq_append_right.1 h)
    | false => simp [Percent.encode_eq_self_iff]

/-- A text that a request may hold in a path, and that is read back from there, is linked by the
address that was asked for exactly if it is a plain segment. -/
theorem get?_self_plain_iff {text : String} (hne : text ≠ "")
    (hpath : ∀ c ∈ text.toList, RequestTarget.isPathChar c = true) (hslash : '/' ∉ text.toList)
    (hescape : Percent.hasEscape text.toList = false) (known : List String) (extra : Templates) :
    (ofResource ("/movies/" ++ text) known extra).get? "self" = some ("/movies/" ++ text) ↔
      PathSegment.Plain text := by
  have hchars := fun c hc => RequestTarget.of_isPathChar (hpath c hc)
  have hiff := get?_self_iff (mt String.toList_eq_nil_iff.1 hne) hchars hslash known extra
  rw [String.ofList_toList] at hiff
  have hdots := Url.isDot_iff hescape
  have hone : text = "." ↔ text.toList = ['.'] := String.toList_inj.symm
  have htwo : text = ".." ↔ text.toList = ['.', '.'] := String.toList_inj.symm
  rw [hiff]
  constructor
  · rintro ⟨hback, hsingle, hdouble, hplain⟩
    refine ⟨hne, fun c hc => ?_, hescape, ?_⟩
    · refine (PathSegment.isPlainChar_iff c).2 ⟨hpath c hc, ?_, ?_, hplain c hc⟩ <;> rintro rfl
      · exact hslash hc
      · exact hback hc
    · rw [ne_eq, ne_eq, hone, htwo]
      exact hdots.1 ⟨hsingle, hdouble⟩
  · rintro ⟨-, hplain, -, hsegments⟩
    have hplain := fun c hc => (PathSegment.isPlainChar_iff c).1 (hplain c hc)
    rw [ne_eq, ne_eq, hone, htwo] at hsegments
    obtain ⟨hsingle, hdouble⟩ := hdots.2 hsegments
    exact ⟨fun hback => (hplain _ hback).2.2.1 rfl, hsingle, hdouble,
      fun c hc => (hplain c hc).2.2.2⟩

end Links

end Catalog
