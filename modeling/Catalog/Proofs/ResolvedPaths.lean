import Catalog.Proofs.EncodedAgain
import Catalog.Proofs.Pieces

/-!
# Resolved paths

The segments of a path are resolved once: no dot segment is left, and nothing that has to be
encoded. So a path that was read from an address is read from there as itself.

## Key results

- `Url.resolved_of_mem_resolveSegments`: what becomes of the segments of a path
- `Url.resolveSegments_of_resolved`: resolved segments stay
- `Url.settled_pathOf`: every path that is read is settled
- `Url.Settled.pathOf_eq`, `Url.Settled.pathOf_file`: settled paths are read as themselves
-/

namespace Catalog.Url

/-! ## Segments -/

/-- A segment that stays as it is when it is resolved. -/
structure Resolved (kind : SchemeKind) (segment : List Char) : Prop where
  /-- It does not stand for its own directory. -/
  not_single : isSingleDot segment = false
  /-- It does not stand for the directory above. -/
  not_double : isDoubleDot segment = false
  /-- It is not split. -/
  slash_not_mem : '/' ∉ segment
  /-- Not even at backslashes. -/
  backslash_not_mem : kind.isKnown = true → '\\' ∉ segment
  /-- None of its characters is encoded. -/
  plain : ∀ c ∈ segment, c.toNat < 0x80 ∧ Percent.inPath c = false

theorem resolved_nil (kind : SchemeKind) : Resolved kind [] where
  not_single := rfl
  not_double := rfl
  slash_not_mem := List.not_mem_nil
  backslash_not_mem _ := List.not_mem_nil
  plain _ hc := absurd hc List.not_mem_nil

theorem resolved_encode {kind : SchemeKind} {segment : List Char}
    (hsingle : isSingleDot segment = false) (hdouble : isDoubleDot segment = false)
    (hslash : '/' ∉ segment) (hbackslash : kind.isKnown = true → '\\' ∉ segment) :
    Resolved kind (Percent.encode Percent.inPath segment) := by
  have hdot : Percent.inPath '.' = false := by decide
  refine ⟨?_, ?_, ?_, ?_, ?_⟩
  · exact isSingleDot_encode hdot hsingle
  · exact isDoubleDot_encode hdot hdouble
  · intro h
    cases Percent.mem_encode h with
    | inl hescape => exact absurd hescape (by decide)
    | inr hmem => exact hslash hmem.1
  · intro hkind h
    cases Percent.mem_encode h with
    | inl hescape => exact absurd hescape (by decide)
    | inr hmem => exact hbackslash hkind hmem.1
  · exact Percent.encode_eq_self_iff.1
      (Percent.encode_encode (fun _ hc => Percent.inPath_of_isEscapeChar hc) segment)

theorem mem_of_mem_shorten {segments : List (List Char)} {s : List Char}
    (h : s ∈ shorten segments) : s ∈ segments := by
  unfold shorten at h
  split at h
  · exact h
  · split at h
    · exact h
    · exact List.mem_cons_of_mem _ h

/-- The segment that is added for one that is no dot segment: the sign behind a drive letter is
written as a colon. -/
def added (kind : SchemeKind) (before : List (List Char)) (segment : List Char) : List Char :=
  match segment with
  | [c, '|'] => if kind == .file && before.isEmpty && Text.isAsciiLetter c then [c, ':'] else [c, '|']
  | s => s

theorem added_cases (kind : SchemeKind) (before : List (List Char)) (segment : List Char) :
    added kind before segment = segment ∨
      (kind = .file ∧ before = [] ∧
        ∃ c, Text.isAsciiLetter c = true ∧ added kind before segment = [c, ':']) := by
  unfold added
  split
  · split
    · next c h =>
      simp only [Bool.and_eq_true, beq_iff_eq, List.isEmpty_iff] at h
      exact .inr ⟨h.1.1, h.1.2, c, h.2, rfl⟩
    · exact .inl rfl
  · exact .inl rfl

/-- What one segment makes of those before it. -/
theorem resolveSegments_cons (kind : SchemeKind) (before : List (List Char)) (segment : List Char)
    (rest : List (List Char)) :
    resolveSegments kind before (segment :: rest) =
      if isDoubleDot segment then
        resolveSegments kind
          (if rest.isEmpty then [] :: shorten before else shorten before) rest
      else if isSingleDot segment then
        resolveSegments kind (if rest.isEmpty then [] :: before else before) rest
      else
        resolveSegments kind
          (Percent.encode Percent.inPath (added kind before segment) :: before) rest := by
  rfl

theorem resolved_added {kind : SchemeKind} (before : List (List Char)) {segment : List Char}
    (hsingle : isSingleDot segment = false) (hdouble : isDoubleDot segment = false)
    (hslash : '/' ∉ segment) (hbackslash : kind.isKnown = true → '\\' ∉ segment) :
    Resolved kind (Percent.encode Percent.inPath (added kind before segment)) := by
  cases added_cases kind before segment with
  | inl hsame => rw [hsame]; exact resolved_encode hsingle hdouble hslash hbackslash
  | inr hdrive =>
    obtain ⟨-, -, c, hc, hadded⟩ := hdrive
    rw [hadded]
    have hne : c ≠ '/' ∧ c ≠ '\\' := by
      constructor
      · rintro rfl; exact absurd hc (by decide)
      · rintro rfl; exact absurd hc (by decide)
    apply resolved_encode
    · simp [isSingleDot, Text.lowerAscii]
    · simp [isDoubleDot, Text.lowerAscii]
    · simp [hne.1.symm]
    · simp [hne.2.symm]

/-- What becomes of the segments of a path is resolved. -/
theorem resolved_of_mem_resolveSegments {kind : SchemeKind} {before segments : List (List Char)}
    (hbefore : ∀ s ∈ before, Resolved kind s) (hslash : ∀ s ∈ segments, '/' ∉ s)
    (hbackslash : kind.isKnown = true → ∀ s ∈ segments, '\\' ∉ s) :
    ∀ s ∈ resolveSegments kind before segments, Resolved kind s := by
  induction segments generalizing before with
  | nil => exact hbefore
  | cons segment rest ih =>
    rw [List.forall_mem_cons] at hslash
    have hfirst : kind.isKnown = true → '\\' ∉ segment := fun hkind =>
      hbackslash hkind segment List.mem_cons_self
    have hrest : kind.isKnown = true → ∀ s ∈ rest, '\\' ∉ s := fun hkind s hs =>
      hbackslash hkind s (List.mem_cons_of_mem segment hs)
    -- behind a dot segment at the end stands an empty one
    have hlast : ∀ {segments : List (List Char)}, (∀ s ∈ segments, Resolved kind s) →
        ∀ s ∈ (if rest.isEmpty then [] :: segments else segments), Resolved kind s := by
      intro segments h
      split
      · exact List.forall_mem_cons.2 ⟨resolved_nil kind, h⟩
      · exact h
    rw [resolveSegments_cons]
    split
    · exact ih (hlast fun s hs => hbefore s (mem_of_mem_shorten hs)) hslash.2 hrest
    split
    · exact ih (hlast hbefore) hslash.2 hrest
    · next hdouble hsingle =>
      rw [Bool.not_eq_true] at hdouble hsingle
      have hadded := resolved_added before hsingle hdouble hslash.1 hfirst
      exact ih (List.forall_mem_cons.2 ⟨hadded, hbefore⟩) hslash.2 hrest

/-- The last segment of a path leaves one behind. -/
theorem resolveSegments_ne_nil (kind : SchemeKind) (before : List (List Char))
    {segments : List (List Char)} (h : segments ≠ []) :
    resolveSegments kind before segments ≠ [] := by
  induction segments generalizing before with
  | nil => exact absurd rfl h
  | cons segment rest ih =>
    rw [resolveSegments_cons]
    cases rest with
    | nil =>
      simp only [List.isEmpty_nil, if_true, resolveSegments]
      split
      · exact List.cons_ne_nil _ _
      split
      · exact List.cons_ne_nil _ _
      · exact List.cons_ne_nil _ _
    | cons next rest =>
      have ih := fun before => ih before (List.cons_ne_nil next rest)
      split
      · exact ih _
      split
      · exact ih _
      · exact ih _

/-- Resolved segments stay, unless the first one is a drive letter. -/
theorem resolveSegments_of_resolved {kind : SchemeKind} {before segments : List (List Char)}
    (hsegments : ∀ s ∈ segments, Resolved kind s) (hbefore : kind = .file → before ≠ []) :
    resolveSegments kind before segments = segments.reverse ++ before := by
  induction segments generalizing before with
  | nil => rfl
  | cons segment rest ih =>
    obtain ⟨hsegment, hrest⟩ := List.forall_mem_cons.1 hsegments
    have hadded : added kind before segment = segment := by
      cases added_cases kind before segment with
      | inl hsame => exact hsame
      | inr hdrive => exact absurd hdrive.2.1 (hbefore hdrive.1)
    rw [resolveSegments_cons, hsegment.not_double, hsegment.not_single, hadded,
      Percent.encode_eq_self_iff.2 hsegment.plain, if_neg Bool.false_ne_true,
      if_neg Bool.false_ne_true, ih hrest fun _ => List.cons_ne_nil segment before]
    simp

/-! ## Paths -/

theorem joinSegments_reverse {segments : List (List Char)} (h : segments ≠ []) :
    joinSegments segments.reverse = '/' :: Text.joinWith '/' segments := by
  rw [joinSegments, List.reverse_reverse]
  induction segments with
  | nil => exact absurd rfl h
  | cons segment rest ih =>
    cases rest with
    | nil => simp [Text.joinWith]
    | cons next rest => simp [Text.joinWith, ih (List.cons_ne_nil next rest)]

/-- A path that is read as itself: its segments are resolved, and that of a file does not start with
two slashes. Only unknown schemes have addresses without a path. -/
inductive Settled (kind : SchemeKind) : List Char → Prop where
  | nil (h : kind = .unknown) : Settled kind []
  | slash {rest : List Char} (hsegments : ∀ s ∈ Text.splitOn '/' rest, Resolved kind s)
      (hfile : kind = .file → rest.head? ≠ some '/') : Settled kind ('/' :: rest)

/-- The path of resolved segments is settled. -/
theorem settled_joinSegments {kind : SchemeKind} {segments : List (List Char)}
    (hne : segments ≠ []) (hall : ∀ s ∈ segments, Resolved kind s)
    (hfile : kind = .file → segments = [[]] ∨ segments.head? ≠ some []) :
    Settled kind (joinSegments segments.reverse) := by
  rw [joinSegments_reverse hne]
  refine .slash ?_ fun hkind => ?_
  · rwa [Text.splitOn_joinWith hne fun s hs => (hall s hs).slash_not_mem]
  · cases hfile hkind with
    | inl hempty => simp [hempty, Text.joinWith]
    | inr hhead =>
      -- the first character is one of the first segment
      obtain ⟨segment, rest, rfl⟩ := List.exists_cons_of_ne_nil hne
      have hslash := (hall segment List.mem_cons_self).slash_not_mem
      cases segment with
      | nil => exact absurd rfl hhead
      | cons c cs =>
        have hjoined : (Text.joinWith '/' ((c :: cs) :: rest)).head? = some c := by
          cases rest with
          | nil => rfl
          | cons next rest => rfl
        rw [hjoined, ne_eq, Option.some.injEq]
        rintro rfl
        exact hslash List.mem_cons_self

/-- The segments that are read from a text behind a host. -/
def segmentsOf (kind : SchemeKind) (cs : List Char) : List (List Char) :=
  match cs with
  | [] => if kind.isKnown then [[]] else []
  | c :: rest => splitSlashes kind (if isSlash kind c then rest else c :: rest)

/-- Drop the empty segments in front of a file's path, but for the last one. -/
def withoutEmptyFront (segments : List (List Char)) : List (List Char) :=
  match segments.dropWhile List.isEmpty with
  | [] => if segments.isEmpty then [] else [[]]
  | segments => segments

theorem pathOf_eq (kind : SchemeKind) (cs : List Char) :
    pathOf kind cs =
      let resolved := (resolveSegments kind [] (segmentsOf kind cs)).reverse
      joinSegments (if kind == .file then withoutEmptyFront resolved else resolved).reverse := by
  cases cs with
  | nil => rfl
  | cons c rest => rfl

/-- Where no backslash is to be read as a slash, a text is split at its slashes. -/
theorem splitSlashes_eq {kind : SchemeKind} {rest : List Char}
    (h : kind.isKnown = true → '\\' ∉ rest) :
    splitSlashes kind rest = Text.splitOn '/' rest := by
  unfold splitSlashes
  split
  · next hkind =>
    have hsame : (rest.map fun c => if c = '\\' then '/' else c) = rest := by
      conv => rhs; rw [← List.map_id' rest]
      refine List.map_congr_left fun c hc => if_neg ?_
      rintro rfl
      exact h hkind hc
    rw [hsame]
  · rfl

theorem not_mem_of_mem_segmentsOf {kind : SchemeKind} {cs segment : List Char}
    (h : segment ∈ segmentsOf kind cs) :
    '/' ∉ segment ∧ (kind.isKnown = true → '\\' ∉ segment) := by
  have hpieces : ∀ rest, segment ∈ splitSlashes kind rest →
      '/' ∉ segment ∧ (kind.isKnown = true → '\\' ∉ segment) := by
    intro rest hmem
    refine ⟨Text.not_mem_of_mem_splitOn hmem, fun hkind hbackslash => ?_⟩
    have hback := Text.mem_of_mem_splitOn hmem hbackslash
    rw [hkind, if_pos rfl] at hback
    obtain ⟨c, -, hc⟩ := List.mem_map.1 hback
    split at hc
    · cases hc
    · next hne => exact hne hc
  unfold segmentsOf at h
  split at h
  · split at h
    · simp [List.mem_singleton.1 h]
    · cases h
  · exact hpieces _ h

theorem segmentsOf_ne_nil {kind : SchemeKind} {cs : List Char} (h : kind ≠ .unknown ∨ cs ≠ []) :
    segmentsOf kind cs ≠ [] := by
  cases cs with
  | nil => cases kind <;> simp_all [segmentsOf, SchemeKind.isKnown]
  | cons c rest => exact Text.splitOn_ne_nil '/' _

theorem mem_of_mem_withoutEmptyFront {segments : List (List Char)} {s : List Char}
    (h : s ∈ withoutEmptyFront segments) : s = [] ∨ s ∈ segments := by
  unfold withoutEmptyFront at h
  split at h
  · split at h
    · cases h
    · exact .inl (List.mem_singleton.1 h)
  · exact .inr ((List.dropWhile_sublist _).subset h)

theorem withoutEmptyFront_cases {segments : List (List Char)} (hne : segments ≠ []) :
    withoutEmptyFront segments = [[]] ∨
      (withoutEmptyFront segments ≠ [] ∧ (withoutEmptyFront segments).head? ≠ some []) := by
  unfold withoutEmptyFront
  split
  · exact .inl (if_neg (by simpa using hne))
  · next hdrop =>
    refine .inr ⟨hdrop, fun hhead => ?_⟩
    have hfirst := List.head?_dropWhile_not List.isEmpty segments
    rw [hhead] at hfirst
    cases hfirst

/-- Every path that is read is settled. -/
theorem settled_pathOf (kind : SchemeKind) (cs : List Char) : Settled kind (pathOf kind cs) := by
  by_cases hempty : kind = .unknown ∧ cs = []
  · obtain ⟨rfl, rfl⟩ := hempty
    exact .nil rfl
  have hne : (resolveSegments kind [] (segmentsOf kind cs)).reverse ≠ [] := by
    rw [ne_eq, List.reverse_eq_nil_iff]
    exact resolveSegments_ne_nil kind [] (segmentsOf_ne_nil (not_and_or.1 hempty))
  have hall : ∀ s ∈ (resolveSegments kind [] (segmentsOf kind cs)).reverse, Resolved kind s := by
    intro s hs
    rw [List.mem_reverse] at hs
    exact resolved_of_mem_resolveSegments (fun s hs => absurd hs List.not_mem_nil)
      (fun s hs => (not_mem_of_mem_segmentsOf hs).1)
      (fun hkind s hs => (not_mem_of_mem_segmentsOf hs).2 hkind) s hs
  rw [pathOf_eq]
  simp only
  split
  · -- the path of a file
    have hcases := withoutEmptyFront_cases hne
    refine settled_joinSegments ?_ (fun s hs => ?_) fun _ => hcases.imp_right And.right
    · cases hcases with
      | inl h => rw [h]; exact List.cons_ne_nil _ _
      | inr h => exact h.1
    · cases mem_of_mem_withoutEmptyFront hs with
      | inl h => rw [h]; exact resolved_nil kind
      | inr h => exact hall s h
  · next hkind =>
    refine settled_joinSegments hne hall fun h => absurd ?_ hkind
    rw [h]
    rfl

/-- Visible ASCII characters are those that stand in a path, and some more. -/
theorem visible_of_not_inPath {c : Char} (hascii : c.toNat < 0x80) (h : Percent.inPath c = false) :
    0x20 < c.toNat ∧ c.toNat < 0x7F ∧ c ≠ '?' ∧ c ≠ '#' := by
  have hall : ∀ n ∈ List.range 0x80, Percent.inPath (Char.ofNat n) = false →
      0x20 < (Char.ofNat n).toNat ∧ (Char.ofNat n).toNat < 0x7F ∧ Char.ofNat n ≠ '?' ∧
        Char.ofNat n ≠ '#' := by decide +kernel
  exact Text.of_ascii (p := fun c => Percent.inPath c = false →
    0x20 < c.toNat ∧ c.toNat < 0x7F ∧ c ≠ '?' ∧ c ≠ '#') hall hascii h

namespace Settled

variable {kind : SchemeKind} {path : List Char}

/-- What holds of slashes and of the characters of resolved segments holds of those of settled
paths. -/
theorem forall_mem {p : Char → Prop} (h : Settled kind path) (hslash : p '/')
    (hsegments : ∀ s, Resolved kind s → ∀ c ∈ s, p c) : ∀ c ∈ path, p c := by
  cases h with
  | nil => exact fun c hc => absurd hc List.not_mem_nil
  | @slash rest hresolved _ =>
    refine List.forall_mem_cons.2 ⟨hslash, ?_⟩
    rw [← Text.joinWith_splitOn '/' rest]
    exact Text.forall_mem_joinWith hslash fun s hs => hsegments s (hresolved s hs)

/-- Settled paths stand in an address as they are. -/
theorem visible (h : Settled kind path) :
    ∀ c ∈ path, 0x20 < c.toNat ∧ c.toNat < 0x7F ∧ c ≠ '?' ∧ c ≠ '#' := by
  refine h.forall_mem (by decide) fun s hs c hc => ?_
  obtain ⟨hascii, hplain⟩ := hs.plain c hc
  exact visible_of_not_inPath hascii hplain

theorem backslash_not_mem (h : Settled kind path) (hkind : kind.isKnown = true) : '\\' ∉ path := by
  have hall := h.forall_mem (p := (· ≠ '\\')) (by decide) fun s hs c hc => by
    rintro rfl
    exact hs.backslash_not_mem hkind hc
  exact fun hmem => hall _ hmem rfl

/-- A settled path is read as itself. -/
theorem pathOf_eq (h : Settled kind path) (hkind : kind ≠ .file) : pathOf kind path = path := by
  have hfile : (kind == .file) = false := beq_false_of_ne hkind
  cases h with
  | nil h => subst h; rfl
  | @slash rest hresolved hdouble =>
    have hback : kind.isKnown = true → '\\' ∉ rest := fun hknown hmem =>
      (Settled.slash hresolved hdouble).backslash_not_mem hknown (List.mem_cons_of_mem _ hmem)
    have hsegments : segmentsOf kind ('/' :: rest) = Text.splitOn '/' rest := by
      simp [segmentsOf, isSlash, splitSlashes_eq hback]
    rw [Url.pathOf_eq, hsegments, resolveSegments_of_resolved hresolved fun h => absurd h hkind]
    simp only [hfile, List.append_nil, List.reverse_reverse, Bool.false_eq_true, if_false]
    rw [joinSegments_reverse (Text.splitOn_ne_nil '/' rest), Text.joinWith_splitOn]

end Settled

/-! ## Behind a path -/

/-- A query or a fragment with its sign, or nothing at all. -/
def Tail (tail : List Char) : Prop :=
  ∀ c ∈ tail.head?, c ∈ ['?', '#']

/-- A text without query and fragment is what stands before the query behind it. -/
theorem Tail.beforeQuery_append {cs tail : List Char} (h : Tail tail)
    (hcs : ∀ c ∈ cs, c ≠ '?' ∧ c ≠ '#') : beforeQuery (cs ++ tail) = cs := by
  refine Text.takeWhile_append_stop (fun c hc => ?_) fun c hc => ?_
  · simp [hcs c hc]
  · have hc := h c hc
    simp only [List.mem_cons, List.not_mem_nil, or_false] at hc
    cases hc with
    | inl hc => subst hc; rfl
    | inr hc => subst hc; rfl

/-- What an authority ends in front of. -/
def EndsAuthority (rest : List Char) : Prop :=
  ∀ c ∈ rest.head?, c ∈ ['/', '?', '#']

namespace Settled

variable {kind : SchemeKind} {path tail : List Char}

theorem endsAuthority (h : Settled kind path) (htail : Tail tail) :
    EndsAuthority (path ++ tail) := by
  cases h with
  | nil _ => exact fun c hc => List.mem_cons_of_mem '/' (htail c hc)
  | slash _ _ =>
    intro c hc
    obtain rfl : '/' = c := Option.some.inj hc
    exact List.mem_cons_self

/-- The path is what stands before the query. -/
theorem beforeQuery_append (h : Settled kind path) (htail : Tail tail) :
    beforeQuery (path ++ tail) = path :=
  htail.beforeQuery_append fun c hc => (h.visible c hc).2.2

end Settled

end Catalog.Url
