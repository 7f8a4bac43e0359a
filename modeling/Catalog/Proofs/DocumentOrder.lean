import Catalog.Proofs.Circle
import Catalog.Proofs.Paging

/-!
# When the order of documents is transitive

Texts are compared as instants if both are timestamps and by code points if not, so a text that is
no timestamp can stand between two timestamps which their instants order the other way. This is the
only way in which the order of documents fails to be transitive.

## Key results

- `compareTexts_of_between`, `textBetween_of_circle`: circles among texts
- `Json.between_of_circle`: circles among values, by their structure
- `SortSpec.compareDocuments_transitive_iff`: the exact condition, for any set of documents
- `SortSpec.exists_not_transitive`: documents of movies that break it
-/

namespace Catalog

/-! ## Orders that are transitive -/

instance : Std.TransCmp Instant.cmp :=
  inferInstanceAs (Std.TransCmp (compareLex (compareOn Instant.seconds) (compareOn Instant.nanos)))

instance : Std.TransCmp Binary64.compareTotal :=
  inferInstanceAs (Std.TransCmp (compareOn Binary64.orderKey))

/-! ## Texts -/

/-- The text `t` is no timestamp and stands, by code points, strictly between two timestamps. -/
structure TextBetween (s t u : String) : Prop where
  /-- The text in front is a timestamp. -/
  before : (Instant.timestamp? s).isSome
  /-- The text in the middle is none. -/
  middle : Instant.timestamp? t = none
  /-- The text behind is a timestamp. -/
  after : (Instant.timestamp? u).isSome
  /-- The first text is less than the second. -/
  lower : compare s t = .lt
  /-- The second text is less than the third. -/
  upper : compare t u = .lt

theorem compareTexts_of_none_left {s : String} (h : Instant.timestamp? s = none) (t : String) :
    compareTexts s t = compare s t := by
  simp only [compareTexts, h]

theorem compareTexts_of_none_right {t : String} (h : Instant.timestamp? t = none) (s : String) :
    compareTexts s t = compare s t := by
  cases hs : Instant.timestamp? s with
  | none => exact compareTexts_of_none_left hs t
  | some a => simp only [compareTexts, hs, h]

theorem compareTexts_of_some {s t : String} {a b : Instant} (hs : Instant.timestamp? s = some a)
    (ht : Instant.timestamp? t = some b) : compareTexts s t = a.cmp b := by
  simp only [compareTexts, hs, ht]

theorem compareTexts_swap (s t : String) : compareTexts t s = (compareTexts s t).swap := by
  cases hs : Instant.timestamp? s with
  | none =>
    rw [compareTexts_of_none_left hs, compareTexts_of_none_right hs]
    exact Std.OrientedOrd.eq_swap
  | some a =>
    cases ht : Instant.timestamp? t with
    | none =>
      rw [compareTexts_of_none_left ht, compareTexts_of_none_right ht]
      exact Std.OrientedOrd.eq_swap
    | some b =>
      rw [compareTexts_of_some hs ht, compareTexts_of_some ht hs]
      exact Std.OrientedCmp.eq_swap

/-- A text between two timestamps is compared with both by code points. -/
theorem compareTexts_of_between {s t u : String} (h : TextBetween s t u) :
    compareTexts s t = .lt ∧ compareTexts t u = .lt := by
  rw [compareTexts_of_none_right h.middle, compareTexts_of_none_left h.middle]
  exact ⟨h.lower, h.upper⟩

/-- A step that is not down, from a timestamp to another text or back, leads up. -/
private theorem lt_of_ne_gt {s t : String} (h : compare s t ≠ .gt)
    (hne : (Instant.timestamp? s).isSome ≠ (Instant.timestamp? t).isSome) : compare s t = .lt := by
  cases hc : compare s t with
  | lt => rfl
  | gt => exact absurd hc h
  | eq =>
    have : s = t := Std.LawfulEqOrd.eq_of_compare hc
    exact absurd (by rw [this]) hne

/-- A circle with a text that is no timestamp in its middle, between two timestamps. -/
private theorem textBetween_of_middle {s t u : String} (hs : (Instant.timestamp? s).isSome)
    (ht : Instant.timestamp? t = none) (hu : (Instant.timestamp? u).isSome)
    (h : Circle compareTexts s t u) : TextBetween s t u := by
  have hfirst := h.first
  have hsecond := h.second
  rw [compareTexts_of_none_right ht] at hfirst
  rw [compareTexts_of_none_left ht] at hsecond
  exact ⟨hs, ht, hu, lt_of_ne_gt hfirst (by simp [hs, ht]), lt_of_ne_gt hsecond (by simp [hu, ht])⟩

/-- If two texts of a circle are no timestamps, all three are compared by code points. -/
private theorem not_circle_of_two_none {s t u : String} (hs : Instant.timestamp? s = none)
    (ht : Instant.timestamp? t = none) : ¬ Circle compareTexts s t u := by
  intro h
  refine not_circle_of_transCmp (compare : String → String → Ordering) s t u ?_
  have hst := compareTexts_of_none_left hs t
  have htu := compareTexts_of_none_left ht u
  have hus := compareTexts_of_none_right hs u
  exact ⟨hst ▸ h.first, htu ▸ h.second, hus ▸ h.back,
    fun level => h.uneven ⟨hst.trans level.1, htu.trans level.2.1, hus.trans level.2.2⟩⟩

/-- A circle of texts has two timestamps, and the third text stands between them. -/
theorem textBetween_of_circle {s t u : String} (h : Circle compareTexts s t u) :
    Around TextBetween s t u := by
  -- by the number of timestamps: fewer than two leave a comparison by code points
  cases hs : Instant.timestamp? s with
  | none =>
    cases ht : Instant.timestamp? t with
    | none => exact absurd h (not_circle_of_two_none hs ht)
    | some b =>
      cases hu : Instant.timestamp? u with
      | none => exact absurd h.rotate.rotate (not_circle_of_two_none hu hs)
      | some c =>
        exact .inr (.inr (textBetween_of_middle (by simp [hu]) hs (by simp [ht]) h.rotate.rotate))
  | some a =>
    cases ht : Instant.timestamp? t with
    | none =>
      cases hu : Instant.timestamp? u with
      | none => exact absurd h.rotate (not_circle_of_two_none ht hu)
      | some c => exact .inl (textBetween_of_middle (by simp [hs]) ht (by simp [hu]) h)
    | some b =>
      cases hu : Instant.timestamp? u with
      | none =>
        exact .inr (.inl (textBetween_of_middle (by simp [ht]) hu (by simp [hs]) h.rotate))
      | some c =>
        -- three timestamps are compared as instants
        have hst := compareTexts_of_some hs ht
        have htu := compareTexts_of_some ht hu
        have hus := compareTexts_of_some hu hs
        refine absurd (⟨hst ▸ h.first, htu ▸ h.second, hus ▸ h.back, fun level => ?_⟩ :
          Circle Instant.cmp a b c) (not_circle_of_transCmp Instant.cmp a b c)
        exact h.uneven ⟨hst.trans level.1, htu.trans level.2.1, hus.trans level.2.2⟩

/-! ## Values -/

theorem Json.compare_of_kindRank_ne {x y : Json}
    (h : Json.kindRank (some x) ≠ Json.kindRank (some y)) :
    Json.compare x y = Ord.compare (Json.kindRank (some x)) (Json.kindRank (some y)) := by
  cases x <;> cases y <;> first | rfl | exact absurd rfl h

theorem Json.compareOptional_of_kindRank_ne {a b : Option Json}
    (h : Json.kindRank a ≠ Json.kindRank b) :
    Json.compareOptional a b = Ord.compare (Json.kindRank a) (Json.kindRank b) := by
  cases a with
  | none => rfl
  | some x =>
    cases b with
    | none => rfl
    | some y => exact Json.compare_of_kindRank_ne h

/-- A step that is not down does not lead to a lower kind. -/
private theorem kindRank_le {a b : Option Json} (h : Json.compareOptional a b ≠ .gt) :
    Json.kindRank a ≤ Json.kindRank b := by
  by_cases hr : Json.kindRank a = Json.kindRank b
  · omega
  · rw [Json.compareOptional_of_kindRank_ne hr] at h
    exact Nat.compare_ne_gt.1 h

/-- Values that go round in a circle are of one kind. -/
private theorem kindRank_eq_of_circle {a b c : Option Json}
    (h : Circle Json.compareOptional a b c) :
    Json.kindRank a = Json.kindRank b ∧ Json.kindRank b = Json.kindRank c := by
  have hab := kindRank_le h.first
  have hbc := kindRank_le h.second
  have hca := kindRank_le h.back
  omega

mutual

theorem Json.compare_swap : ∀ x y : Json, Json.compare y x = (Json.compare x y).swap
  | .null, y => by cases y <;> rfl
  | .object _, y => by cases y <;> rfl
  | .bool a, y => by
    cases y with
    | bool b => cases a <;> cases b <;> rfl
    | _ => rfl
  | .number m, y => by
    cases y with
    | number n =>
      have hswap : n.toBinary64.compareTotal m.toBinary64 =
          (m.toBinary64.compareTotal n.toBinary64).swap := Std.OrientedCmp.eq_swap
      exact hswap
    | _ => rfl
  | .string s, y => by
    cases y with
    | string t => exact compareTexts_swap s t
    | _ => rfl
  | .array xs, y => by
    cases y with
    | array ys => exact Json.compareItems_swap xs ys
    | _ => rfl

theorem Json.compareItems_swap :
    ∀ xs ys : List Json, Json.compareItems ys xs = (Json.compareItems xs ys).swap
  | [], [] => rfl
  | [], _ :: _ => rfl
  | _ :: _, [] => rfl
  | x :: xs, y :: ys => by
    simp only [Json.compareItems, Ordering.swap_then]
    rw [Json.compare_swap x y, Json.compareItems_swap xs ys]

end

mutual

/-- At some place inside, everything in front of it being equal, the second value holds a text that
stands between timestamps of the first and the third. -/
inductive Json.Between : Json → Json → Json → Prop
  /-- The values are the texts. -/
  | text {s t u : String} (h : TextBetween s t u) :
    Json.Between (.string s) (.string t) (.string u)
  /-- The texts are inside lists. -/
  | array {xs ys zs : List Json} (h : Json.ItemsBetween xs ys zs) :
    Json.Between (.array xs) (.array ys) (.array zs)

/-- The same of lists of values. -/
inductive Json.ItemsBetween : List Json → List Json → List Json → Prop
  /-- The texts are in the first items. -/
  | head {x y z : Json} {xs ys zs : List Json} (h : Json.Between x y z) :
    Json.ItemsBetween (x :: xs) (y :: ys) (z :: zs)
  /-- The first items are equal. -/
  | tail {x y z : Json} {xs ys zs : List Json} (hxy : Json.compare x y = .eq)
    (hyz : Json.compare y z = .eq) (h : Json.ItemsBetween xs ys zs) :
    Json.ItemsBetween (x :: xs) (y :: ys) (z :: zs)

end

mutual

/-- A value between two others is greater than the first and less than the last. -/
theorem Json.compare_of_between {x y z : Json} (h : Json.Between x y z) :
    Json.compare x y = .lt ∧ Json.compare y z = .lt := by
  cases h with
  | text h => exact compareTexts_of_between h
  | array h => exact Json.compareItems_of_between h

/-- The same of lists. -/
theorem Json.compareItems_of_between {xs ys zs : List Json} (h : Json.ItemsBetween xs ys zs) :
    Json.compareItems xs ys = .lt ∧ Json.compareItems ys zs = .lt := by
  cases h with
  | head h =>
    have hlt := Json.compare_of_between h
    simp only [Json.compareItems, hlt.1, hlt.2, Ordering.lt_then, and_self]
  | tail hxy hyz h =>
    have hlt := Json.compareItems_of_between h
    simp only [Json.compareItems, hxy, hyz, hlt.1, hlt.2, Ordering.eq_then, and_self]

end

/-- Three values of one kind. -/
private inductive OneKind : Json → Json → Json → Prop
  | null : OneKind .null .null .null
  | bool (a b c : Bool) : OneKind (.bool a) (.bool b) (.bool c)
  | number (m n k : JsonNumber) : OneKind (.number m) (.number n) (.number k)
  | string (s t u : String) : OneKind (.string s) (.string t) (.string u)
  | array (xs ys zs : List Json) : OneKind (.array xs) (.array ys) (.array zs)
  | object (a b c : Json.Fields) : OneKind (.object a) (.object b) (.object c)

private theorem oneKind_of_circle {x y z : Json} (h : Circle Json.compare x y z) :
    OneKind x y z := by
  obtain ⟨hxy, hyz⟩ := kindRank_eq_of_circle (a := some x) (b := some y) (c := some z)
    ⟨h.first, h.second, h.back, h.uneven⟩
  cases x <;> cases y <;> first
    | exact absurd hxy (Nat.ne_of_beq_eq_false rfl)
    | cases z <;> first
      | exact absurd hyz (Nat.ne_of_beq_eq_false rfl)
      | constructor

mutual

/-- Values go round in a circle only by a text between two timestamps. -/
theorem Json.between_of_circle (x y z : Json) (h : Circle Json.compare x y z) :
    Around Json.Between x y z := by
  cases oneKind_of_circle h with
  | null => exact absurd ⟨rfl, rfl, rfl⟩ h.uneven
  | object => exact absurd ⟨rfl, rfl, rfl⟩ h.uneven
  | bool a b c =>
    exact absurd ⟨h.first, h.second, h.back, h.uneven⟩
      (not_circle_of_transCmp (Ord.compare : Bool → Bool → Ordering) a b c)
  | number m n k =>
    exact absurd ⟨h.first, h.second, h.back, h.uneven⟩
      (not_circle_of_transCmp Binary64.compareTotal m.toBinary64 n.toBinary64 k.toBinary64)
  | string s t u =>
    have htexts : Circle compareTexts s t u := ⟨h.first, h.second, h.back, h.uneven⟩
    exact (textBetween_of_circle htexts).imp .text .text .text
  | array xs ys zs =>
    have hitems : Circle Json.compareItems xs ys zs := ⟨h.first, h.second, h.back, h.uneven⟩
    exact (Json.itemsBetween_of_circle xs ys zs hitems).imp .array .array .array
termination_by sizeOf x

/-- The same of lists. -/
theorem Json.itemsBetween_of_circle (xs ys zs : List Json)
    (h : Circle Json.compareItems xs ys zs) : Around Json.ItemsBetween xs ys zs := by
  -- a list that is not above the empty one is empty, and no step leads down
  match xs, ys, zs, h with
  | [], [], [], h => exact absurd ⟨rfl, rfl, rfl⟩ h.uneven
  | [], _, _ :: _, h => exact absurd rfl h.back
  | _ :: _, [], _, h => exact absurd rfl h.first
  | _, _ :: _, [], h => exact absurd rfl h.second
  | x :: xs, y :: ys, z :: zs, h =>
    have hpairs : Circle (fun a b : Json × List Json =>
        (Json.compare a.1 b.1).then (Json.compareItems a.2 b.2)) (x, xs) (y, ys) (z, zs) :=
      ⟨h.first, h.second, h.back, h.uneven⟩
    rcases Circle.of_then (fun a b : Json × List Json => Json.compare a.1 b.1) _ hpairs
      with hhead | ⟨level, htail⟩
    · have hbetween := Json.between_of_circle x y z
        ⟨hhead.first, hhead.second, hhead.back, hhead.uneven⟩
      exact hbetween.imp .head .head .head
    · obtain ⟨hxy, hyz, hzx⟩ := level
      have hbetween := Json.itemsBetween_of_circle xs ys zs
        ⟨htail.first, htail.second, htail.back, htail.uneven⟩
      exact hbetween.imp (.tail hxy hyz) (.tail hyz hzx) (.tail hzx hxy)
termination_by sizeOf xs

end

/-! ## Values that may be missing -/

theorem Json.compareOptional_swap (a b : Option Json) :
    Json.compareOptional b a = (Json.compareOptional a b).swap := by
  cases a with
  | none => cases b <;> exact Std.OrientedOrd.eq_swap
  | some x =>
    cases b with
    | none => exact Std.OrientedOrd.eq_swap
    | some y => exact Json.compare_swap x y

/-- The lowest kind is that of missing values and null. -/
private theorem eq_none_or_null_of_kindRank {v : Option Json} (h : Json.kindRank v = 0) :
    v = none ∨ v = some .null := by
  rcases v with _ | x
  · exact .inl rfl
  · cases x <;> first | exact .inr rfl | exact nomatch h

private theorem compareOptional_of_kindRank_zero {v w : Option Json} (hv : Json.kindRank v = 0)
    (hw : Json.kindRank w = 0) : Json.compareOptional v w = .eq := by
  rcases eq_none_or_null_of_kindRank hv with rfl | rfl <;>
    rcases eq_none_or_null_of_kindRank hw with rfl | rfl <;> rfl

/-- Of the values in a circle none is missing. -/
private theorem exists_some_of_circle {a b c : Option Json}
    (h : Circle Json.compareOptional a b c) : ∃ x y z, a = some x ∧ b = some y ∧ c = some z := by
  obtain ⟨hab, hbc⟩ := kindRank_eq_of_circle h
  -- missing values and null are level with each other, and a circle is not level
  have hpos : Json.kindRank a ≠ 0 := by
    intro ha
    have hb : Json.kindRank b = 0 := by omega
    have hc : Json.kindRank c = 0 := by omega
    exact h.uneven ⟨compareOptional_of_kindRank_zero ha hb,
      compareOptional_of_kindRank_zero hb hc, compareOptional_of_kindRank_zero hc ha⟩
  have present : ∀ v : Option Json, Json.kindRank v ≠ 0 → ∃ x, v = some x := by
    intro v hv
    cases v with
    | none => exact absurd rfl hv
    | some x => exact ⟨x, rfl⟩
  obtain ⟨x, hx⟩ := present a hpos
  obtain ⟨y, hy⟩ := present b (by omega)
  obtain ⟨z, hz⟩ := present c (by omega)
  exact ⟨x, y, z, hx, hy, hz⟩

/-! ## Documents -/

/-- Level values are level in either direction. -/
theorem Direction.apply_eq_eq_iff {direction : Direction} {o : Ordering} :
    direction.apply o = .eq ↔ o = .eq := by
  cases direction with
  | asc => rfl
  | desc => exact Ordering.swap_eq_eq

namespace SortSpec

/-- Under some sort key, the more significant ones being equal, the second document holds a text
that stands between timestamps of the first and the third. -/
inductive Between : SortSpec → Document → Document → Document → Prop
  /-- The key is ascending. -/
  | ascending {field : String} {keys : SortSpec} {a b c : Document} {x y z : Json}
    (ha : a.lookup field = some x) (hb : b.lookup field = some y) (hc : c.lookup field = some z)
    (h : Json.Between x y z) : Between (⟨field, .asc⟩ :: keys) a b c
  /-- The key is descending. -/
  | descending {field : String} {keys : SortSpec} {a b c : Document} {x y z : Json}
    (ha : a.lookup field = some x) (hb : b.lookup field = some y) (hc : c.lookup field = some z)
    (h : Json.Between z y x) : Between (⟨field, .desc⟩ :: keys) a b c
  /-- The values of the first key are equal. -/
  | later {key : SortKey} {keys : SortSpec} {a b c : Document}
    (hab : Json.compareOptional (a.lookup key.field) (b.lookup key.field) = .eq)
    (hbc : Json.compareOptional (b.lookup key.field) (c.lookup key.field) = .eq)
    (h : Between keys a b c) : Between (key :: keys) a b c

theorem compareDocuments_swap (sort : SortSpec) (a b : Document) :
    sort.compareDocuments b a = (sort.compareDocuments a b).swap := by
  induction sort with
  | nil => rfl
  | cons key keys ih =>
    simp only [compareDocuments, Ordering.swap_then, ih]
    congr 1
    cases key.direction with
    | asc => exact Json.compareOptional_swap _ _
    | desc => exact congrArg Ordering.swap (Json.compareOptional_swap _ _)

/-- A document between two others comes after the first and before the last. -/
theorem compareDocuments_of_between {sort : SortSpec} {a b c : Document} (h : sort.Between a b c) :
    sort.compareDocuments a b = .lt ∧ sort.compareDocuments b c = .lt := by
  induction h with
  | ascending ha hb hc h =>
    obtain ⟨hxy, hyz⟩ := Json.compare_of_between h
    simp only [compareDocuments, ha, hb, hc, Json.compareOptional, Direction.apply, hxy, hyz,
      Ordering.lt_then, and_self]
  | @descending field keys a b c x y z ha hb hc h =>
    obtain ⟨hzy, hyx⟩ := Json.compare_of_between h
    have hxy : Json.compare x y = .gt := by rw [Json.compare_swap y x, hyx]; rfl
    have hyz : Json.compare y z = .gt := by rw [Json.compare_swap z y, hzy]; rfl
    simp only [compareDocuments, ha, hb, hc, Json.compareOptional, Direction.apply, hxy, hyz,
      Ordering.swap_gt, Ordering.lt_then, and_self]
  | @later key keys a b c hab hbc h ih =>
    simp only [compareDocuments, hab, hbc, Direction.apply_eq_eq_iff.2, Ordering.eq_then, ih,
      and_self]

/-- Documents go round in a circle under one key only by a text between two timestamps. -/
private theorem between_of_circle_key {field : String} {direction : Direction} {keys : SortSpec}
    {a b c : Document}
    (h : Circle (fun a b : Document =>
      direction.apply (Json.compareOptional (a.lookup field) (b.lookup field))) a b c) :
    Around (Between (⟨field, direction⟩ :: keys)) a b c := by
  cases direction with
  | asc =>
    have hvalues : Circle Json.compareOptional (a.lookup field) (b.lookup field)
        (c.lookup field) := ⟨h.first, h.second, h.back, h.uneven⟩
    obtain ⟨x, y, z, ha, hb, hc⟩ := exists_some_of_circle hvalues
    rw [ha, hb, hc] at hvalues
    have hbetween := Json.between_of_circle x y z
      ⟨hvalues.first, hvalues.second, hvalues.back, hvalues.uneven⟩
    exact hbetween.imp (.ascending ha hb hc) (.ascending hb hc ha) (.ascending hc ha hb)
  | desc =>
    -- a descending circle is an ascending one in the other sense of rotation
    have hswapped : Circle (fun v w => (Json.compareOptional v w).swap) (a.lookup field)
        (b.lookup field) (c.lookup field) := ⟨h.first, h.second, h.back, h.uneven⟩
    have hvalues := hswapped.of_swap Json.compareOptional_swap
    obtain ⟨x, z, y, ha, hc, hb⟩ := exists_some_of_circle hvalues
    rw [ha, hb, hc] at hvalues
    rcases Json.between_of_circle x z y
      ⟨hvalues.first, hvalues.second, hvalues.back, hvalues.uneven⟩ with h | h | h
    · exact .inr (.inl (.descending hb hc ha h))
    · exact .inl (.descending ha hb hc h)
    · exact .inr (.inr (.descending hc ha hb h))

/-- Documents go round in a circle only by a text between two timestamps. -/
theorem between_of_circle (sort : SortSpec) {a b c : Document}
    (h : Circle sort.compareDocuments a b c) : Around sort.Between a b c := by
  induction sort with
  | nil => exact absurd ⟨rfl, rfl, rfl⟩ h.uneven
  | cons key keys ih =>
    have hthen : Circle (fun a b : Document =>
        (key.direction.apply (Json.compareOptional (a.lookup key.field) (b.lookup key.field))).then
          (compareDocuments keys a b)) a b c := ⟨h.first, h.second, h.back, h.uneven⟩
    -- the circle is one of the first key, or the first key is level all around
    rcases Circle.of_then (fun a b : Document =>
      key.direction.apply (Json.compareOptional (a.lookup key.field) (b.lookup key.field))) _
      hthen with hkey | ⟨level, hkeys⟩
    · exact between_of_circle_key hkey
    · simp only [Direction.apply_eq_eq_iff] at level
      obtain ⟨hab, hbc, hca⟩ := level
      exact (ih hkeys).imp (.later hab hbc) (.later hbc hca) (.later hca hab)

/-- The order of documents by sort keys is transitive on a set of documents exactly if, whenever a
text stands between two timestamps there, the document of the earlier timestamp by code points also
comes first. -/
theorem compareDocuments_transitive_iff (sort : SortSpec) (docs : Document → Prop) :
    (∀ a b c, docs a → docs b → docs c → sort.compareDocuments a b ≠ .gt →
      sort.compareDocuments b c ≠ .gt → sort.compareDocuments a c ≠ .gt) ↔
    ∀ a b c, docs a → docs b → docs c → sort.Between a b c → sort.compareDocuments a c = .lt := by
  constructor
  · intro htrans a b c ha hb hc h
    obtain ⟨hab, hbc⟩ := compareDocuments_of_between h
    have hac := htrans a b c ha hb hc (by rw [hab]; decide) (by rw [hbc]; decide)
    cases ho : sort.compareDocuments a c with
    | lt => rfl
    | gt => exact absurd ho hac
    | eq =>
      -- then `b`, `c` and `a` break transitivity, for `c` is level with `a`
      have hca : sort.compareDocuments c a = .eq := by rw [compareDocuments_swap sort a c, ho]; rfl
      have hba := htrans b c a hb hc ha (by rw [hbc]; decide) (by rw [hca]; decide)
      exact absurd (by rw [compareDocuments_swap sort a b, hab]; rfl) hba
  · intro hbetween a b c ha hb hc hab hbc hac
    -- on a circle, no document may stand between two others
    have hnone : ∀ {a b c}, docs a → docs b → docs c → sort.compareDocuments c a ≠ .gt →
        ¬ sort.Between a b c := by
      intro a b c ha hb hc hca h
      rw [compareDocuments_swap sort a c, hbetween a b c ha hb hc h] at hca
      exact hca rfl
    have hcircle := Circle.of_ne_trans (compareDocuments_swap sort) hab hbc hac
    rcases between_of_circle sort hcircle with h | h | h
    · exact hnone ha hb hc hcircle.back h
    · exact hnone hb hc ha hcircle.first h
    · exact hnone hc ha hb hcircle.second h

/-- Three movies of which the first comes before the second and the second before the third by
title, and the third before the first: two titles are timestamps. -/
theorem exists_not_transitive :
    ∃ a b c : Movie,
      compareDocuments [⟨"title", .asc⟩] a.document b.document ≠ .gt ∧
      compareDocuments [⟨"title", .asc⟩] b.document c.document ≠ .gt ∧
      compareDocuments [⟨"title", .asc⟩] a.document c.document = .gt := by
  refine ⟨Store.sampleMovie "a" "1999-12-31T23:00:00-05:00" 1999, Store.sampleMovie "b" "2" 2002,
    Store.sampleMovie "c" "2000-01-01T00:00:00Z" 2000, ?_, ?_, ?_⟩ <;> decide

end SortSpec

end Catalog
