import Catalog.Proofs.Pieces
import Catalog.Proofs.UnescapedText
import Catalog.Query.Sort

/-!
# Runs of sort specifications

A sort specification is built by setting fields one by one and by compiling expressions. After every
step its fields are distinct: setting one that is there changes its direction alone, and a compiled
expression leaves the fields of its clauses in the order in which they first come, each with the
direction that comes last.

## Key results

- `SortSpec.set_eq`: what setting a field changes
- `SortSpec.isKey_iff`, `SortSpec.isKeys_iff`: the keys of a clause and of an expression
- `SortSpec.merges_setAll`: first places and last directions
- `SortSpec.run_spec`: what every step of a run leaves behind
-/

namespace Catalog

/-! ## Words of directions -/

/-- The word `asc`, each of its letters in either case. -/
def Direction.IsAscending (word : List Char) : Prop :=
  ∃ a s c, word = [a, s, c] ∧ a ∈ ['a', 'A'] ∧ s ∈ ['s', 'S'] ∧ c ∈ ['c', 'C']

/-- A letter is the small form of itself and of its capital alone. -/
private theorem toLower_eq_small_iff {small capital c : Char}
    (hcapital : capital.toLower = small)
    (hall : ∀ k ∈ List.range 26, (Char.ofNat (65 + k)).toLower = small →
      Char.ofNat (65 + k) = capital)
    (hsmall : small.toLower = small) : c.toLower = small ↔ c ∈ [small, capital] := by
  simp only [List.mem_cons, List.not_mem_nil, or_false]
  constructor
  · intro hc
    rcases Text.toLower_eq_or c with hsame | ⟨k, hk, rfl⟩
    · exact .inl (hsame ▸ hc)
    · exact .inr (hall k hk hc)
  · rintro (rfl | rfl)
    · exact hsmall
    · exact hcapital

theorem Direction.ofWord_eq_asc_iff {word : List Char} :
    Direction.ofWord word = .asc ↔ Direction.IsAscending word := by
  have ha : ∀ c : Char, c.toLower = 'a' ↔ c ∈ ['a', 'A'] := fun c =>
    toLower_eq_small_iff (by decide) (by decide) (by decide)
  have hs : ∀ c : Char, c.toLower = 's' ↔ c ∈ ['s', 'S'] := fun c =>
    toLower_eq_small_iff (by decide) (by decide) (by decide)
  have hc : ∀ c : Char, c.toLower = 'c' ↔ c ∈ ['c', 'C'] := fun c =>
    toLower_eq_small_iff (by decide) (by decide) (by decide)
  have hword : Direction.ofWord word = .asc ↔ word.map Char.toLower = ['a', 's', 'c'] := by
    simp [Direction.ofWord, Text.sameIgnoringCase, Text.lowerAscii]
  rw [hword, Direction.IsAscending]
  simp only [List.map_eq_cons_iff, List.map_eq_nil_iff, ha, hs, hc]
  constructor
  · intro h
    obtain ⟨a, rest, rfl, hfirst, s, rest', rfl, hsecond, c, rest'', rfl, hthird, rfl⟩ := h
    exact ⟨a, s, c, rfl, hfirst, hsecond, hthird⟩
  · intro h
    obtain ⟨a, s, c, rfl, hfirst, hsecond, hthird⟩ := h
    exact ⟨a, _, rfl, hfirst, s, _, rfl, hsecond, c, _, rfl, hthird, rfl⟩

namespace SortSpec

/-! ## Clauses of expressions -/

/-- A clause and the key that it stands for. The field is what is before the first colon. -/
inductive IsKey : List Char → SortKey → Prop where
  /-- Without a colon, there is no word for the direction, which is descending. -/
  | bare {field : String} (h : ':' ∉ field.toList) : IsKey field.toList ⟨field, .desc⟩
  /-- The word for the direction ends with the clause or at the second colon. -/
  | word {field : String} {word rest : List Char} {direction : Direction}
    (hfield : ':' ∉ field.toList) (hword : ':' ∉ word) (hrest : ∀ c ∈ rest.head?, c = ':')
    (hdirection : direction = .asc ↔ Direction.IsAscending word) :
    IsKey (field.toList ++ ':' :: (word ++ rest)) ⟨field, direction⟩

/-- The keys of an expression are those of the clauses between its commas that are not blank. -/
def IsKeys (e : String) (keys : List SortKey) : Prop :=
  ∃ pieces, Text.CutAt ',' e.toList pieces ∧
    List.Forall₂ IsKey (pieces.filter fun piece => !piece.all Text.isBlank) keys

/-- A key that a clause stands for is the one that is read. -/
private theorem clauseKey_of_isKey {clause : List Char} {key : SortKey} (h : IsKey clause key) :
    clauseKey clause = key := by
  cases h with
  | bare h => simp [clauseKey, Text.splitOn_of_not_mem h]
  | @word field word rest direction hfield hword hrest hdirection =>
    -- the word is the first piece behind the first colon
    obtain ⟨more, hmore⟩ : ∃ more, Text.splitOn ':' (word ++ rest) = word :: more := by
      cases rest with
      | nil => exact ⟨[], by rw [List.append_nil, Text.splitOn_of_not_mem hword]⟩
      | cons c later =>
        obtain rfl := hrest c rfl
        exact ⟨_, by rw [Text.splitOn_append_sep, Text.splitOn_of_not_mem hword]; rfl⟩
    have hpieces : Text.splitOn ':' (field.toList ++ ':' :: (word ++ rest)) =
        field.toList :: word :: more := by
      rw [Text.splitOn_append_sep, Text.splitOn_of_not_mem hfield, hmore]
      rfl
    have hread : Direction.ofWord word = direction := by
      rw [← Direction.ofWord_eq_asc_iff] at hdirection
      cases direction with
      | asc => exact hdirection.1 rfl
      | desc =>
        cases hofWord : Direction.ofWord word with
        | desc => rfl
        | asc => exact nomatch hdirection.2 hofWord
    simp [clauseKey, hpieces, hread]

/-- Every clause stands for a key. -/
private theorem exists_isKey (clause : List Char) : ∃ key, IsKey clause key := by
  have hdirection : ∀ word, Direction.ofWord word = .asc ↔ Direction.IsAscending word :=
    fun _ => Direction.ofWord_eq_asc_iff
  -- by the first colon, and then by the first one behind it
  cases hfirst : Text.splitFirst? ':' clause with
  | none =>
    have hbare := @IsKey.bare (String.ofList clause)
    rw [String.toList_ofList] at hbare
    exact ⟨_, hbare (Text.splitFirst?_eq_none hfirst)⟩
  | some cut =>
    obtain ⟨field, behind⟩ := cut
    obtain ⟨rfl, hfield⟩ := Text.splitFirst?_eq_some hfirst
    rw [← String.toList_ofList (l := field)] at hfield ⊢
    cases hsecond : Text.splitFirst? ':' behind with
    | none =>
      have hkey := @IsKey.word (String.ofList field) behind [] _ hfield
        (Text.splitFirst?_eq_none hsecond) (by simp) (hdirection behind)
      rw [List.append_nil] at hkey
      exact ⟨_, hkey⟩
    | some cut =>
      obtain ⟨word, later⟩ := cut
      obtain ⟨rfl, hword⟩ := Text.splitFirst?_eq_some hsecond
      exact ⟨_, .word hfield hword (by simp) (hdirection word)⟩

theorem isKey_iff {clause : List Char} {key : SortKey} :
    IsKey clause key ↔ clauseKey clause = key := by
  constructor
  · exact clauseKey_of_isKey
  · intro h
    obtain ⟨key', hkey'⟩ := exists_isKey clause
    rwa [← h, clauseKey_of_isKey hkey']

theorem isKeys_iff {e : String} {keys : List SortKey} :
    IsKeys e keys ↔ clauseKeys e.toList = keys := by
  have hkey : IsKey = fun clause key => clauseKey clause = key := by
    funext clause key
    exact propext isKey_iff
  simp only [IsKeys, Text.cutAt_iff, exists_eq_left', clauseKeys, hkey]
  rw [← List.forall₂_eq_eq_eq, List.forall₂_map_left_iff]

/-! ## Setting fields -/

/-- The fields of keys, in order. -/
def fields (keys : List SortKey) : List String :=
  keys.map (·.field)

theorem fields_concat (keys : List SortKey) (key : SortKey) :
    fields (keys ++ [key]) = fields keys ++ [key.field] := by
  simp [fields]

/-- Setting a field that is there changes its direction and nothing else; a new field comes last. -/
theorem set_eq {spec : SortSpec} (h : (fields spec).Nodup) (field : String)
    (direction : Direction) :
    set field direction spec = if field ∈ fields spec
      then spec.map fun key => if key.field = field then ⟨field, direction⟩ else key
      else spec ++ [⟨field, direction⟩] := by
  induction spec with
  | nil => rfl
  | cons key keys ih =>
    obtain ⟨hkey, hkeys⟩ := List.nodup_cons.1 h
    by_cases heq : key.field = field
    · -- the field does not come a second time
      have hothers : ∀ other ∈ keys,
          (if other.field = field then ⟨field, direction⟩ else other) = other := by
        intro other hother
        apply if_neg
        intro hfield
        exact hkey (List.mem_map.2 ⟨other, hother, hfield.trans heq.symm⟩)
      rw [set, if_pos heq, if_pos (by simp [fields, heq]), List.map_cons, if_pos heq,
        List.map_congr_left hothers, List.map_id']
    · have hmem : field ∈ fields (key :: keys) ↔ field ∈ fields keys := by
        simp [fields, Ne.symm heq]
      rw [set, if_neg heq, ih hkeys]
      by_cases hfield : field ∈ fields keys <;> simp [hmem, hfield, heq]

theorem fields_set {spec : SortSpec} (h : (fields spec).Nodup) (field : String)
    (direction : Direction) : fields (set field direction spec) =
      if field ∈ fields spec then fields spec else fields spec ++ [field] := by
  rw [set_eq h]
  split
  · -- the key in the place of another one has its field
    rw [fields, fields, List.map_map]
    apply List.map_congr_left
    intro key _
    by_cases heq : key.field = field <;> simp [heq]
  · rw [fields_concat]

/-- Setting a field keeps the fields distinct. -/
theorem nodup_set {spec : SortSpec} (h : (fields spec).Nodup) (field : String)
    (direction : Direction) : (fields (set field direction spec)).Nodup := by
  rw [fields_set h]
  split
  · exact h
  · next hnew =>
    rw [List.nodup_append]
    refine ⟨h, List.pairwise_singleton _ field, ?_⟩
    intro other hother new hnew' heq
    rw [heq, List.mem_singleton.1 hnew'] at hother
    exact hnew hother

/-! ## Setting keys one after the other -/

/-- The specification `spec` has the distinct fields of `keys`, in the order in which they first
come, each with the direction that comes last. -/
structure Merges (keys : List SortKey) (spec : SortSpec) : Prop where
  /-- Fields do not repeat. -/
  nodup : (fields spec).Nodup
  /-- They are those of the keys. -/
  mem_fields : ∀ field, field ∈ fields spec ↔ field ∈ fields keys
  /-- They stand in the order in which they first come. -/
  order : (fields spec).Pairwise fun a b => (fields keys).idxOf a < (fields keys).idxOf b
  /-- Behind a key with its direction, the field does not come again. -/
  last : ∀ key ∈ spec, ∃ before after, keys = before ++ key :: after ∧ key.field ∉ fields after

theorem merges_nil : Merges [] [] where
  nodup := .nil
  mem_fields _ := Iff.rfl
  order := .nil
  last _ h := absurd h List.not_mem_nil

section Set

variable {keys : List SortKey} {spec : SortSpec}

/-- Setting the field of one more key adds that field. -/
private theorem Merges.mem_fields_set (h : Merges keys spec) (key : SortKey) (field : String) :
    field ∈ fields (set key.field key.direction spec) ↔ field ∈ fields (keys ++ [key]) := by
  rw [fields_set h.nodup, fields_concat, List.mem_append, List.mem_singleton,
    ← h.mem_fields field]
  split
  · next hold =>
    refine ⟨.inl, fun hfield => ?_⟩
    rcases hfield with hfield | rfl
    · exact hfield
    · exact hold
  · rw [List.mem_append, List.mem_singleton]

/-- The fields that were there keep their order, and a new one comes behind them. -/
private theorem Merges.order_set (h : Merges keys spec) (key : SortKey) :
    (fields (set key.field key.direction spec)).Pairwise fun a b =>
      (fields (keys ++ [key])).idxOf a < (fields (keys ++ [key])).idxOf b := by
  have hidx : ∀ field ∈ fields spec,
      (fields (keys ++ [key])).idxOf field = (fields keys).idxOf field := by
    intro field hfield
    rw [fields_concat, List.idxOf_append_of_mem ((h.mem_fields field).1 hfield)]
  have hbefore : (fields spec).Pairwise fun a b =>
      (fields (keys ++ [key])).idxOf a < (fields (keys ++ [key])).idxOf b := by
    refine h.order.imp_of_mem fun ha hb hab => ?_
    rwa [hidx _ ha, hidx _ hb]
  rw [fields_set h.nodup]
  split
  · exact hbefore
  · next hnew =>
    refine List.pairwise_append.2 ⟨hbefore, List.pairwise_singleton _ _, fun a ha b hb => ?_⟩
    -- `a` comes among the keys, and `b` is the new field, which comes at their end
    have hlt := List.idxOf_lt_length_of_mem ((h.mem_fields a).1 ha)
    rw [List.mem_singleton.1 hb, hidx a ha, fields_concat,
      List.idxOf_append_of_notMem (mt (h.mem_fields key.field).2 hnew)]
    omega

/-- A key of another field stays the last one of its field. -/
private theorem Merges.last_of_ne (h : Merges keys spec) {key other : SortKey}
    (hother : other ∈ spec) (hne : other.field ≠ key.field) :
    ∃ before after, keys ++ [key] = before ++ other :: after ∧ other.field ∉ fields after := by
  obtain ⟨before, after, hsplit, hafter⟩ := h.last other hother
  refine ⟨before, after ++ [key], by simp [hsplit], ?_⟩
  -- the new key behind `other` has another field
  rw [fields_concat, List.mem_append, List.mem_singleton, not_or]
  exact ⟨hafter, hne⟩

/-- A key of the specification is the one that was set, or one of another field that was there. -/
private theorem mem_set (h : (fields spec).Nodup) {key other : SortKey}
    (hother : other ∈ set key.field key.direction spec) :
    other = key ∨ other ∈ spec ∧ other.field ≠ key.field := by
  rw [set_eq h] at hother
  split at hother
  · obtain ⟨old, hold, rfl⟩ := List.mem_map.1 hother
    by_cases heq : old.field = key.field
    · exact .inl (if_pos heq)
    · rw [if_neg heq]
      exact .inr ⟨hold, heq⟩
  · next hnew =>
    rcases List.mem_append.1 hother with hold | hother
    · exact .inr ⟨hold, fun heq => hnew (heq ▸ List.mem_map_of_mem hold)⟩
    · exact .inl (List.mem_singleton.1 hother)

/-- One more key is merged by setting it. -/
theorem Merges.set (h : Merges keys spec) (key : SortKey) :
    Merges (keys ++ [key]) (SortSpec.set key.field key.direction spec) where
  nodup := nodup_set h.nodup key.field key.direction
  mem_fields := h.mem_fields_set key
  order := h.order_set key
  last := by
    intro other hother
    rcases mem_set h.nodup hother with rfl | ⟨hold, hne⟩
    · exact ⟨keys, [], rfl, List.not_mem_nil⟩
    · exact h.last_of_ne hold hne

end Set

/-- Keys that are set one after the other are merged. -/
theorem merges_setAll (keys : List SortKey) : Merges keys (setAll keys []) := by
  -- by induction on the keys that are still to be set
  suffices h : ∀ (done : List SortKey) (spec : SortSpec), Merges done spec →
      Merges (done ++ keys) (setAll keys spec) from h [] [] merges_nil
  induction keys with
  | nil => exact fun done spec h => by rwa [List.append_nil]
  | cons key keys ih =>
    intro done spec h
    have hnext := ih _ _ (h.set key)
    rwa [List.append_assoc, List.singleton_append] at hnext

/-! ## Runs -/

/-- A step of a run. -/
inductive Step where
  /-- A field is set to a direction. -/
  | set (field : String) (direction : Direction)
  /-- An expression is compiled, with the specification as its default. -/
  | compile (expression : Option String)

/-- What a step makes of a specification. -/
def Step.apply (spec : SortSpec) : Step → SortSpec
  | .set field direction => SortSpec.set field direction spec
  | .compile expression => SortSpec.compile expression spec

/-- The specification that steps lead to from the empty one. -/
def run (steps : List Step) : SortSpec :=
  steps.foldl Step.apply []

/-- What a step leaves of a specification. -/
inductive Leaves : SortSpec → Step → SortSpec → Prop where
  /-- A field that is there keeps its place, and the other keys are not touched. -/
  | changed {spec : SortSpec} {field : String} {direction : Direction} (h : field ∈ fields spec) :
    Leaves spec (.set field direction)
      (spec.map fun key => if key.field = field then ⟨field, direction⟩ else key)
  /-- A new field comes last. -/
  | added {spec : SortSpec} {field : String} {direction : Direction} (h : field ∉ fields spec) :
    Leaves spec (.set field direction) (spec ++ [⟨field, direction⟩])
  /-- Without an expression, everything stays. -/
  | absent {spec : SortSpec} : Leaves spec (.compile none) spec
  /-- The empty expression is none. -/
  | empty {spec : SortSpec} : Leaves spec (.compile (some "")) spec
  /-- Any other one leaves its own keys. -/
  | compiled {spec spec' : SortSpec} {e : String} {keys : List SortKey} (he : e ≠ "")
    (hkeys : IsKeys e keys) (h : Merges keys spec') : Leaves spec (.compile (some e)) spec'

/-- One step, from a specification with distinct fields. -/
theorem leaves_apply {spec : SortSpec} (h : (fields spec).Nodup) (step : Step) :
    (fields (step.apply spec)).Nodup ∧ Leaves spec step (step.apply spec) := by
  cases step with
  | set field direction =>
    refine ⟨nodup_set h field direction, ?_⟩
    rw [Step.apply, set_eq h]
    split
    · next hold => exact .changed hold
    · next hnew => exact .added hnew
  | compile expression =>
    cases expression with
    | none => exact ⟨h, .absent⟩
    | some e =>
      by_cases he : e = ""
      · subst he
        exact ⟨h, .empty⟩
      · have hcompile : (Step.compile (some e)).apply spec = setAll (clauseKeys e.toList) [] := by
          rw [Step.apply, compile, if_neg (by rwa [String.isEmpty_iff])]
        rw [hcompile]
        have hmerges := merges_setAll (clauseKeys e.toList)
        exact ⟨hmerges.nodup, .compiled he (isKeys_iff.2 rfl) hmerges⟩

theorem run_append (steps : List Step) (step : Step) :
    run (steps ++ [step]) = step.apply (run steps) := by
  simp [run]

/-- The fields of a run are distinct at every moment. -/
theorem nodup_run (steps : List Step) : (fields (run steps)).Nodup := by
  suffices h : ∀ spec : SortSpec, (fields spec).Nodup →
      (fields (steps.foldl Step.apply spec)).Nodup from h [] .nil
  induction steps with
  | nil => exact fun spec h => h
  | cons step steps ih => exact fun spec h => ih _ (leaves_apply h step).1

/-- At every moment of a run its fields are distinct, and every further step leaves what it
should. -/
theorem run_spec (steps : List Step) :
    (fields (run steps)).Nodup ∧ ∀ step, Leaves (run steps) step (run (steps ++ [step])) := by
  refine ⟨nodup_run steps, fun step => ?_⟩
  rw [run_append]
  exact (leaves_apply (nodup_run steps) step).2

example : run [.set "title" .asc, .compile (some "year:Asc, ,title,year:up:asc"), .compile none] =
    [⟨"year", .desc⟩, ⟨"title", .desc⟩] := by decide

end SortSpec

end Catalog
