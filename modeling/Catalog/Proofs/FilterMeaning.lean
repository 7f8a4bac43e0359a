import Catalog.Document
import Catalog.Proofs.Pieces
import Catalog.Proofs.SortedEntries
import Catalog.Proofs.Traversal
import Catalog.Query.Filter

/-!
# What filters mean

A filter holds of a document when each token of the last clause of each field does, taken as a
filter of its own. An array field must be met token by token, though perhaps by different elements;
clauses that a later one of the same field replaces count for nothing.

## Key results

- `Predicate.holds_iff`: a predicate holds field by field
- `Filter.rel_lastValue?_get?`: a compiled filter keeps the last clause of each field
- `Filter.holdsAt_iff_tokens`: the condition of a clause is met when each token is
- `Filter.compile_meaning`: the meaning of a filter, clause by clause and token by token
-/

namespace Catalog

/-! ## Compiled conditions -/

namespace CompiledCondition

/-- The field of a document is there, is not null, and meets the condition. -/
def HoldsAt (condition : CompiledCondition) (d : Document) (field : String) : Prop :=
  ∃ value, d.lookup field = some value ∧ value ≠ .null ∧ condition.holds value = true

/-- Tests that must all be met, of which there is at least one, are met one by one. -/
theorem holdsAt_allOf_iff {tests : List CompiledTest} (h : tests ≠ []) (d : Document)
    (field : String) :
    (allOf tests).HoldsAt d field ↔ ∀ test ∈ tests, (allOf [test]).HoldsAt d field := by
  constructor
  · rintro ⟨value, hvalue, hnull, hholds⟩ test htest
    refine ⟨value, hvalue, hnull, ?_⟩
    rw [holds, List.all_eq_true] at hholds
    rw [holds, List.all_cons, List.all_nil, Bool.and_true]
    exact hholds test htest
  · intro hall
    -- the first test says that the field is there at all
    obtain ⟨first, hfirst⟩ := List.exists_mem_of_ne_nil tests h
    obtain ⟨value, hvalue, hnull, -⟩ := hall first hfirst
    refine ⟨value, hvalue, hnull, ?_⟩
    rw [holds, List.all_eq_true]
    intro test htest
    obtain ⟨value', hvalue', -, hholds⟩ := hall test htest
    obtain rfl : value = value' := Option.some.inj (hvalue.symm.trans hvalue')
    rw [holds, List.all_cons, List.all_nil, Bool.and_true] at hholds
    exact hholds

end CompiledCondition

/-- A compiled filter holds of a document when each of its conditions does. -/
theorem CompiledFilter.holds_iff (filter : CompiledFilter) (d : Document) :
    filter.holds d = true ↔ ∀ entry ∈ filter, entry.2.HoldsAt d entry.1 := by
  rw [holds, List.all_eq_true]
  -- entry by entry, a missing value and null fail on both sides
  refine forall_congr' fun entry => forall_congr' fun _ => ?_
  obtain ⟨field, condition⟩ := entry
  unfold CompiledCondition.HoldsAt
  cases hvalue : d.lookup field with
  | none => simp [hvalue]
  | some value => cases value <;> simp [hvalue]

/-! ## Compiling predicates -/

namespace Predicate

/-- Compiling a predicate compiles the condition of each entry. -/
private theorem compile?_eq_some_iff (p : Predicate) (filter : CompiledFilter) :
    p.compile? = some filter ↔
      List.Forall₂ (fun e c => e.1 = c.1 ∧ e.2.compile? = some c.2) p.toList filter := by
  have entry : ∀ (e : String × Condition) (c : String × CompiledCondition),
      (e.2.compile?.map fun condition => (e.1, condition)) = some c ↔
        e.1 = c.1 ∧ e.2.compile? = some c.2 := by
    rintro ⟨field, condition⟩ ⟨field', compiled⟩
    rw [Option.map_eq_some_iff]
    constructor
    · rintro ⟨compiled', h, heq⟩
      cases heq
      exact ⟨rfl, h⟩
    · rintro ⟨rfl, h⟩
      exact ⟨compiled, h, rfl⟩
  unfold compile?
  rw [mapM_eq_some_iff]
  constructor
  · intro h
    exact h.imp fun e c => (entry e c).1
  · intro h
    exact h.imp fun e c => (entry e c).2

/-- A predicate compiles if each of its conditions does. -/
theorem exists_compile? {p : Predicate}
    (h : ∀ field condition, p.get? field = some condition →
      ∃ compiled, condition.compile? = some compiled) :
    ∃ filter, p.compile? = some filter := by
  have hentries : ∀ e ∈ p.toList, ∃ c : String × CompiledCondition,
      e.1 = c.1 ∧ e.2.compile? = some c.2 := by
    rintro ⟨field, condition⟩ he
    obtain ⟨compiled, hcompiled⟩ := h field condition ((SortedMap.mem_toList_iff p _ _).1 he)
    exact ⟨(field, compiled), rfl, hcompiled⟩
  obtain ⟨filter, hfilter⟩ := exists_forall₂_of_forall_mem hentries
  exact ⟨filter, (compile?_eq_some_iff p filter).2 hfilter⟩

/-- A compiled predicate holds of a document field by field. -/
theorem holds_iff {p : Predicate} {filter : CompiledFilter} (hp : p.compile? = some filter)
    (d : Document) :
    filter.holds d = true ↔ ∀ field condition, p.get? field = some condition →
      ∃ compiled, condition.compile? = some compiled ∧ compiled.HoldsAt d field := by
  have hentries := (compile?_eq_some_iff p filter).1 hp
  rw [CompiledFilter.holds_iff]
  constructor
  · intro h field condition hget
    obtain ⟨⟨field', compiled⟩, hc, hfield, hcompiled⟩ :=
      exists_of_forall₂_left hentries ((SortedMap.mem_toList_iff p _ _).2 hget)
    obtain rfl : field = field' := hfield
    exact ⟨compiled, hcompiled, h _ hc⟩
  · rintro h ⟨field, compiled⟩ hc
    obtain ⟨⟨field', condition⟩, he, hfield, hcompiled⟩ := exists_of_forall₂_right hentries hc
    obtain rfl : field' = field := hfield
    obtain ⟨compiled', hcompiled', hholds⟩ :=
      h field' condition ((SortedMap.mem_toList_iff p _ _).1 he)
    obtain rfl : compiled = compiled' := Option.some.inj (hcompiled.symm.trans hcompiled')
    exact hholds

end Predicate

namespace Filter

/-! ## Conditions that clauses compile to -/

/-- What the reader of a type makes of a value. -/
inductive Reads : ScalarType → List Char → Test → Prop where
  /-- A text is a pattern, if it compiles. -/
  | pattern {raw : List Char} (h : (TextPattern.mk (String.ofList raw) true).compile?.isSome = true) :
    Reads .string raw (.pattern ⟨String.ofList raw, true⟩)
  /-- An integer. -/
  | integer {raw : List Char} {n : Int64} (h : Numeral.readInt64 raw = .ok n) :
    Reads .integer raw (.equals (.integer n))
  /-- A finite double. -/
  | float {raw : List Char} {x : Binary64} (h : Binary64.readFinite? raw = some x) :
    Reads .float raw (.equals (.float x))
  /-- The same by its other name. -/
  | number {raw : List Char} {x : Binary64} (h : Binary64.readFinite? raw = some x) :
    Reads .number raw (.equals (.float x))
  /-- A point of time. -/
  | date {raw : List Char} {t : Instant} (h : instant? raw = some t) :
    Reads .date raw (.equals (.date t))

/-- A reader of a type reads nothing else. -/
theorem reads_of_reader? {type : ScalarType} {read : String → List Char → Except QueryError Test}
    (hread : reader? type = some read) {field : String} {raw : List Char} {test : Test}
    (h : read field raw = .ok test) : Reads type raw test := by
  cases type <;> cases hread
  case string =>
    unfold pattern at h
    simp only at h
    split at h
    · next hp =>
      cases h
      exact .pattern hp
    · cases h
  case integer =>
    unfold integer at h
    split at h
    · next hn =>
      cases h
      exact .integer hn
    · cases h
  case float =>
    unfold float at h
    split at h
    · next hx =>
      cases h
      exact .float hx
    · cases h
  case number =>
    unfold float at h
    split at h
    · next hx =>
      cases h
      exact .number hx
    · cases h
  case date =>
    unfold date at h
    split at h
    · next ht =>
      cases h
      exact .date ht
    · cases h

theorem reader?_eq_ok_iff {type : ScalarType} {read : String → List Char → Except QueryError Test}
    (hread : reader? type = some read) {field : String} {raw : List Char} {test : Test} :
    read field raw = .ok test ↔ Reads type raw test := by
  refine ⟨reads_of_reader? hread, fun h => ?_⟩
  cases h with
  | pattern h =>
    cases hread
    exact if_pos h
  | integer h =>
    cases hread
    simp only [integer, h]
  | float h =>
    cases hread
    simp only [float, h]
  | number h =>
    cases hread
    simp only [float, h]
  | date h =>
    cases hread
    simp only [date, h]

/-- What a reader of values makes compiles: a pattern was tried when it was read. -/
theorem exists_compile?_of_reader? {type : ScalarType}
    {read : String → List Char → Except QueryError Test} (hread : reader? type = some read)
    {field : String} {raw : List Char} {test : Test} (h : read field raw = .ok test) :
    ∃ compiled, test.compile? = some compiled := by
  cases reads_of_reader? hread h with
  | pattern hp =>
    obtain ⟨m, hm⟩ := Option.isSome_iff_exists.1 hp
    exact ⟨.pattern m, by rw [Test.compile?, hm, Option.map_some]⟩
  | integer | float | number | date => exact ⟨.equals _, rfl⟩

theorem reader?_of_elementReader? {type : ScalarType}
    {read : String → List Char → Except QueryError Test} (h : elementReader? type = some read) :
    reader? type = some read := by
  cases type <;> first | exact h | cases h

/-- The tokens of a value: an array takes it apart, a scalar takes it whole. -/
def tokensOf (declared : FieldType) (raw : List Char) : List (List Char) :=
  match declared with
  | .scalar _ => [raw]
  | .arrayOf _ => Text.splitOn '|' raw

/-- A value converts and its patterns compile to a condition. -/
def Converts (field : String) (declared : FieldType) (raw : List Char)
    (compiled : CompiledCondition) : Prop :=
  ∃ condition, convert field declared raw = .ok condition ∧ condition.compile? = some compiled

theorem Converts.unique {field : String} {declared : FieldType} {raw : List Char}
    {c c' : CompiledCondition} (h : Converts field declared raw c)
    (h' : Converts field declared raw c') : c = c' := by
  obtain ⟨condition, hconvert, hcompile⟩ := h
  obtain ⟨condition', hconvert', hcompile'⟩ := h'
  obtain rfl : condition = condition' := Except.ok.inj (hconvert.symm.trans hconvert')
  exact Option.some.inj (hcompile.symm.trans hcompile')

/-- A value of an array field converts when its tokens are read and their patterns compile. -/
private theorem converts_arrayOf {field : String} {type : ScalarType}
    {read : String → List Char → Except QueryError Test} (hread : elementReader? type = some read)
    {raw : List Char} {compiled : List CompiledTest}
    (h : List.Forall₂ (fun token c => ∃ test, read field token = .ok test ∧
      test.compile? = some c) (Text.splitOn '|' raw) compiled) :
    Converts field (.arrayOf type) raw (.allOf compiled) := by
  obtain ⟨tests, hread', hcompile⟩ := exists_forall₂_between h
  refine ⟨.allOf tests, ?_, ?_⟩
  · simp only [convert, hread, (mapM_eq_ok_iff _ _ _).2 hread', Except.map]
  · rw [Condition.compile?, (mapM_eq_some_iff _ _ _).2 hcompile, Option.map_some]

/-- The tokens of a value that converts, one by one. -/
private theorem forall₂_of_convert_arrayOf {field : String} {type : ScalarType} {raw : List Char}
    {condition : Condition} (h : convert field (.arrayOf type) raw = .ok condition) :
    ∃ read compiled, elementReader? type = some read ∧
      List.Forall₂ (fun token c => ∃ test, read field token = .ok test ∧ test.compile? = some c)
        (Text.splitOn '|' raw) compiled := by
  rw [convert] at h
  cases hread : elementReader? type with
  | none => rw [hread] at h; cases h
  | some read =>
    simp only [hread] at h
    cases htests : (Text.splitOn '|' raw).mapM (read field) with
    | error e => rw [htests] at h; cases h
    | ok tests =>
      have hsteps := (mapM_eq_ok_iff _ _ _).1 htests
      -- what is read of a token compiles
      have heach : ∀ token ∈ Text.splitOn '|' raw, ∃ c, ∃ test, read field token = .ok test ∧
          test.compile? = some c := by
        intro token htoken
        obtain ⟨test, -, htest⟩ := exists_of_forall₂_left hsteps htoken
        obtain ⟨c, hc⟩ := exists_compile?_of_reader? (reader?_of_elementReader? hread) htest
        exact ⟨c, test, htest, hc⟩
      obtain ⟨compiled, hcompiled⟩ := exists_forall₂_of_forall_mem heach
      exact ⟨read, compiled, rfl, hcompiled⟩

/-- A value that converts has a meaning. -/
theorem exists_converts {field : String} {declared : FieldType} {raw : List Char}
    {condition : Condition} (h : convert field declared raw = .ok condition) :
    ∃ compiled, Converts field declared raw compiled := by
  cases declared with
  | scalar type =>
    have hconvert := h
    rw [convert] at h
    cases hread : reader? type with
    | none => rw [hread] at h; cases h
    | some read =>
      simp only [hread] at h
      cases htest : read field raw with
      | error e => rw [htest] at h; cases h
      | ok test =>
        rw [htest] at h
        cases h
        obtain ⟨c, hc⟩ := exists_compile?_of_reader? hread htest
        exact ⟨.single c, .single test, hconvert, by rw [Condition.compile?, hc, Option.map_some]⟩
  | arrayOf type =>
    obtain ⟨read, compiled, hread, hsteps⟩ := forall₂_of_convert_arrayOf h
    exact ⟨.allOf compiled, converts_arrayOf hread hsteps⟩

/-- Each token of a value that converts is a value that converts, and the condition of the value is
met when the conditions of all its tokens are. -/
theorem holdsAt_iff_tokens {field : String} {declared : FieldType} {raw : List Char}
    {compiled : CompiledCondition} (h : Converts field declared raw compiled) :
    (∀ token ∈ tokensOf declared raw, ∃ c, Converts field declared token c) ∧
    ∀ d : Document, compiled.HoldsAt d field ↔ ∀ token ∈ tokensOf declared raw,
      ∃ c, Converts field declared token c ∧ c.HoldsAt d field := by
  cases declared with
  | scalar type =>
    -- the value is its only token
    simp only [tokensOf, List.mem_singleton, forall_eq]
    refine ⟨⟨compiled, h⟩, fun d => ⟨fun hd => ⟨compiled, h, hd⟩, ?_⟩⟩
    rintro ⟨c, hc, hd⟩
    rwa [h.unique hc]
  | arrayOf type =>
    obtain ⟨read, tests, hread, hsteps⟩ := forall₂_of_convert_arrayOf h.choose_spec.1
    obtain rfl : compiled = .allOf tests := h.unique (converts_arrayOf hread hsteps)
    -- a token holds no bar, so that it is its own only token
    have hsingle : ∀ token ∈ Text.splitOn '|' raw, ∀ c,
        (∃ test, read field token = .ok test ∧ test.compile? = some c) →
        Converts field (.arrayOf type) token (.allOf [c]) := by
      intro token htoken c hc
      refine converts_arrayOf hread ?_
      rw [Text.splitOn_of_not_mem (Text.not_mem_of_mem_splitOn htoken)]
      exact .cons hc .nil
    -- cutting leaves at least one piece
    have hne : tests ≠ [] := by
      rintro rfl
      exact Text.splitOn_ne_nil '|' raw (List.forall₂_nil_right_iff.1 hsteps)
    refine ⟨fun token htoken => ?_, fun d => ?_⟩
    · obtain ⟨c, -, hc⟩ := exists_of_forall₂_left hsteps htoken
      exact ⟨.allOf [c], hsingle token htoken c hc⟩
    · rw [CompiledCondition.holdsAt_allOf_iff hne]
      constructor
      · intro hall token htoken
        obtain ⟨c, hmem, hc⟩ := exists_of_forall₂_left hsteps htoken
        exact ⟨.allOf [c], hsingle token htoken c hc, hall c hmem⟩
      · intro hall c hmem
        obtain ⟨token, htoken, hc⟩ := exists_of_forall₂_right hsteps hmem
        obtain ⟨c', hc', hholds⟩ := hall token htoken
        rwa [hc'.unique (hsingle token htoken c hc)] at hholds

/-! ## Clauses -/

/-- What a clause is made of: its field holds no colon, and nothing in it comes from outside. -/
theorem mem_of_splitClause {clause : List Char} {field : String} {raw : List Char}
    (h : splitClause clause = (field, raw)) :
    ':' ∉ field.toList ∧ (∀ c ∈ field.toList, c ∈ clause) ∧ ∀ c ∈ raw, c ∈ clause := by
  unfold splitClause at h
  split at h
  · next before after hcut =>
    cases h
    obtain ⟨hclause, hnot⟩ := Text.splitFirst?_eq_some hcut
    rw [String.toList_ofList, hclause]
    refine ⟨hnot, fun c hc => List.mem_append_left _ hc, fun c hc => ?_⟩
    exact List.mem_append_right _ (List.mem_cons_of_mem _ hc)
  · next hcut =>
    cases h
    rw [String.toList_ofList]
    exact ⟨Text.splitFirst?_eq_none hcut, fun c hc => hc, fun c hc => by cases hc⟩

/-- The fields that an expression names with the values of their clauses, in order. -/
def named (e : String) : List (String × List Char) :=
  (clauses e).map splitClause

/-- The value of the last clause of a field. -/
def lastValue? (e : String) (field : String) : Option (List Char) :=
  (named e).reverse.lookup field

/-- The expression of one clause with one token. -/
def clauseText (field : String) (token : List Char) : String :=
  String.ofList (field.toList ++ ':' :: token)

theorem exists_lastValue? {e field : String} {raw : List Char} (h : (field, raw) ∈ named e) :
    ∃ last, lastValue? e field = some last := by
  rw [← Option.isSome_iff_exists, lastValue?, List.lookup_isSome_iff]
  exact ⟨(field, raw), List.mem_reverse.2 h, beq_self_eq_true field⟩

theorem mem_named_of_lastValue? {e field : String} {raw : List Char}
    (h : lastValue? e field = some raw) : (field, raw) ∈ named e := by
  obtain ⟨front, back, hsplit, -⟩ := List.lookup_eq_some_iff.1 h
  rw [← List.mem_reverse, hsplit]
  exact List.mem_append_right front List.mem_cons_self

/-- The fields and values that an expression names hold no separator that would part them. -/
theorem not_mem_of_mem_named {e field : String} {raw : List Char} (h : (field, raw) ∈ named e) :
    ':' ∉ field.toList ∧ ',' ∉ field.toList ∧ ',' ∉ raw := by
  obtain ⟨clause, hclause, hsplit⟩ := List.mem_map.1 h
  obtain ⟨hcolon, hfield, hraw⟩ := mem_of_splitClause hsplit
  have hcomma := Text.not_mem_of_mem_splitOn hclause
  exact ⟨hcolon, fun hm => hcomma (hfield _ hm), fun hm => hcomma (hraw _ hm)⟩

/-- A clause compiles when its field is declared and its value converts. -/
theorem compileClause_eq_ok_iff (schema : Schema) (clause : List Char)
    (entry : String × Condition) :
    compileClause schema clause = .ok entry ↔ (splitClause clause).1 = entry.1 ∧
      ∃ declared, schema.get? entry.1 = some declared ∧
        convert entry.1 declared (splitClause clause).2 = .ok entry.2 := by
  obtain ⟨name, condition⟩ := entry
  rcases hsplit : splitClause clause with ⟨field, raw⟩
  simp only [compileClause, hsplit]
  constructor
  · intro h
    cases hget : schema.get? field with
    | none => simp only [hget] at h; cases h
    | some declared =>
      simp only [hget] at h
      cases hconvert : convert field declared raw with
      | error e => rw [hconvert] at h; cases h
      | ok c =>
        rw [hconvert] at h
        cases h
        exact ⟨rfl, declared, hget, hconvert⟩
  · rintro ⟨rfl, declared, hget, hconvert⟩
    simp only [hget, hconvert, Except.map]

/-- A filter that is not empty compiles when its clauses do. -/
theorem compile_eq_ok_iff {schema : Schema} {e : String} (he : e ≠ "") (p : Predicate) :
    compile schema (some e) = .ok p ↔
      ∃ entries, List.Forall₂ (fun clause entry => compileClause schema clause = .ok entry)
        (clauses e) entries ∧ SortedMap.ofList entries = p := by
  have hne : ¬ e.isEmpty = true := by rwa [String.isEmpty_iff]
  simp only [compile, if_neg hne]
  constructor
  · intro h
    cases hentries : (clauses e).mapM (compileClause schema) with
    | error e => rw [hentries] at h; cases h
    | ok entries =>
      rw [hentries] at h
      exact ⟨entries, (mapM_eq_ok_iff _ _ _).1 hentries, Except.ok.inj h⟩
  · rintro ⟨entries, hentries, rfl⟩
    rw [(mapM_eq_ok_iff _ _ _).2 hentries]
    rfl

/-- A compiled filter has, for each field, the condition of its last clause. -/
theorem rel_lastValue?_get? {schema : Schema} {e : String} {p : Predicate} (he : e ≠ "")
    (hp : compile schema (some e) = .ok p) (field : String) :
    Option.Rel (fun raw condition => ∃ declared, schema.get? field = some declared ∧
      convert field declared raw = .ok condition) (lastValue? e field) (p.get? field) := by
  obtain ⟨entries, hentries, rfl⟩ := (compile_eq_ok_iff he p).1 hp
  rw [SortedMap.get?_ofList, lastValue?, named, ← List.map_reverse]
  -- the last entry of a field is the first one from behind
  have hreverse := List.forall₂_reverse_iff.2 hentries
  refine lookup_of_forall₂ (R := fun field raw condition => ∃ declared,
    schema.get? field = some declared ∧ convert field declared raw = .ok condition) ?_ field
  rw [List.forall₂_map_left_iff]
  refine hreverse.imp fun clause entry hentry => ?_
  obtain ⟨hfield, declared, hget, hconvert⟩ :=
    (compileClause_eq_ok_iff schema clause entry).1 hentry
  rw [hfield]
  exact ⟨rfl, declared, hget, hconvert⟩

/-- The expression of one clause with one token compiles to the condition of the token. -/
theorem compile_clauseText {schema : Schema} {field : String} {declared : FieldType}
    {token : List Char} (hget : schema.get? field = some declared) (hcolon : ':' ∉ field.toList)
    (hcomma : ',' ∉ field.toList) (htoken : ',' ∉ token) :
    compile schema (some (clauseText field token)) =
      (convert field declared token).map fun condition =>
        SortedMap.ofList [(field, condition)] := by
  have htext : (clauseText field token).toList = field.toList ++ ':' :: token :=
    String.toList_ofList
  have hne : ¬ (clauseText field token).isEmpty = true := by
    rw [String.isEmpty_iff, ← String.toList_inj, htext]
    simp
  -- the text has no comma, and its first colon is the one behind the field
  have hclauses : clauses (clauseText field token) = [field.toList ++ ':' :: token] := by
    rw [clauses, htext, Text.splitOn_of_not_mem]
    simp [hcomma, htoken]
  have hsplit : splitClause (field.toList ++ ':' :: token) = (field, token) := by
    simp only [splitClause, Text.splitFirst?_append hcolon, String.ofList_toList]
  simp only [compile, if_neg hne, hclauses, List.mapM_cons, List.mapM_nil, compileClause, hsplit,
    hget]
  cases convert field declared token <;> rfl

/-! ## The meaning of an expression -/

/-- The tokens of a value of a field, by its declared type. -/
def tokens (schema : Schema) (field : String) (raw : List Char) : List (List Char) :=
  match schema.get? field with
  | some declared => tokensOf declared raw
  | none => [raw]

/-- An expression is accepted, and its patterns compile to a filter. -/
def CompilesTo (schema : Schema) (e : String) (filter : CompiledFilter) : Prop :=
  ∃ p, compile schema (some e) = .ok p ∧ p.compile? = some filter

/-- The filter `filter` that the expression `e` compiles to, by way of the predicate `p`, means what
the tokens of its clauses mean. -/
structure Meaning (schema : Schema) (e : String) (p : Predicate) (filter : CompiledFilter) :
    Prop where
  /-- Each token of the last clause of a field is accepted as a filter of its own. -/
  accepted : ∀ field raw, lastValue? e field = some raw → ∀ token ∈ tokens schema field raw,
    ∃ alone, CompilesTo schema (clauseText field token) alone
  /-- The filter holds of the documents that the filters of all these tokens hold of. -/
  holds_iff : ∀ d : Document, filter.holds d = true ↔
    ∀ field raw, lastValue? e field = some raw → ∀ token ∈ tokens schema field raw,
      ∃ alone, CompilesTo schema (clauseText field token) alone ∧ alone.holds d = true
  /-- Clauses before the last one of their field may be changed or left out. -/
  last : ∀ e', e' ≠ "" → (∀ clause ∈ clauses e', ∃ entry, compileClause schema clause = .ok entry) →
    (∀ field, lastValue? e' field = lastValue? e field) → compile schema (some e') = .ok p
  /-- A document without a named field, or with null in its place, is not among them. -/
  missing : ∀ d : Document, ∀ clause ∈ named e,
    d.lookup clause.1 = none ∨ d.lookup clause.1 = some .null → filter.holds d = false

/-- The expression of one token compiles to the condition of the token. -/
private theorem compilesTo_clauseText {schema : Schema} {field : String} {declared : FieldType}
    {token : List Char} {compiled : CompiledCondition}
    (hget : schema.get? field = some declared) (hcolon : ':' ∉ field.toList)
    (hcomma : ',' ∉ field.toList) (htoken : ',' ∉ token)
    (h : Converts field declared token compiled) :
    CompilesTo schema (clauseText field token) [(field, compiled)] := by
  obtain ⟨condition, hconvert, hcompile⟩ := h
  refine ⟨SortedMap.ofList [(field, condition)], ?_, ?_⟩
  · rw [compile_clauseText hget hcolon hcomma htoken, hconvert]
    rfl
  · rw [Predicate.compile?]
    simp only [SortedMap.ofList, SortedMap.insert, SortedMap.toList, SortedMap.empty,
      SortedMap.insertEntry, List.foldl_cons, List.foldl_nil, List.mapM_cons, List.mapM_nil,
      hcompile, Option.map_some]
    rfl

theorem CompilesTo.unique {schema : Schema} {e : String} {f f' : CompiledFilter}
    (h : CompilesTo schema e f) (h' : CompilesTo schema e f') : f = f' := by
  obtain ⟨p, hp, hf⟩ := h
  obtain ⟨p', hp', hf'⟩ := h'
  obtain rfl : p = p' := Except.ok.inj (hp.symm.trans hp')
  exact Option.some.inj (hf.symm.trans hf')

private theorem holds_singleton (field : String) (condition : CompiledCondition) (d : Document) :
    CompiledFilter.holds [(field, condition)] d = true ↔ condition.HoldsAt d field := by
  rw [CompiledFilter.holds_iff]
  simp only [List.mem_singleton, forall_eq]

/-- Each token of the last clause of a field is accepted on its own, and the condition of the clause
is met when the filters of all its tokens hold. -/
private theorem holdsAt_iff_alone {schema : Schema} {e field : String} {raw : List Char}
    (hlast : lastValue? e field = some raw) {declared : FieldType}
    (hget : schema.get? field = some declared) {compiled : CompiledCondition}
    (h : Converts field declared raw compiled) :
    (∀ token ∈ tokens schema field raw,
      ∃ alone, CompilesTo schema (clauseText field token) alone) ∧
    ∀ d : Document, compiled.HoldsAt d field ↔ ∀ token ∈ tokens schema field raw,
      ∃ alone, CompilesTo schema (clauseText field token) alone ∧ alone.holds d = true := by
  obtain ⟨hcolon, hcomma, hraw⟩ := not_mem_of_mem_named (mem_named_of_lastValue? hlast)
  -- a clause holds no comma, and neither does a piece of it
  have htoken : ∀ token ∈ tokensOf declared raw, ',' ∉ token := by
    intro token hmem hm
    cases declared with
    | scalar type => exact hraw (List.mem_singleton.1 hmem ▸ hm)
    | arrayOf type => exact hraw (Text.mem_of_mem_splitOn hmem hm)
  have halone : ∀ token ∈ tokensOf declared raw, ∀ c, Converts field declared token c →
      CompilesTo schema (clauseText field token) [(field, c)] :=
    fun token hmem c hc => compilesTo_clauseText hget hcolon hcomma (htoken token hmem) hc
  obtain ⟨haccepted, hholds⟩ := holdsAt_iff_tokens h
  simp only [tokens, hget]
  refine ⟨fun token hmem => ?_, fun d => ?_⟩
  · obtain ⟨c, hc⟩ := haccepted token hmem
    exact ⟨[(field, c)], halone token hmem c hc⟩
  · rw [hholds d]
    refine forall_congr' fun token => forall_congr' fun hmem => ?_
    constructor
    · rintro ⟨c, hc, hd⟩
      exact ⟨[(field, c)], halone token hmem c hc, (holds_singleton field c d).2 hd⟩
    · rintro ⟨alone, halone', hd⟩
      obtain ⟨c, hc⟩ := haccepted token hmem
      obtain rfl := halone'.unique (halone token hmem c hc)
      exact ⟨c, hc, (holds_singleton field c d).1 hd⟩

/-- What the predicate of an expression asks of a field that the expression names. -/
theorem exists_converts_of_lastValue? {schema : Schema} {e : String} {p : Predicate}
    (he : e ≠ "") (hp : compile schema (some e) = .ok p) {field : String} {raw : List Char}
    (hlast : lastValue? e field = some raw) :
    ∃ declared condition compiled, schema.get? field = some declared ∧
      p.get? field = some condition ∧ condition.compile? = some compiled ∧
      Converts field declared raw compiled := by
  have hrel := rel_lastValue?_get? he hp field
  rw [hlast] at hrel
  cases hcondition : p.get? field with
  | none => rw [hcondition] at hrel; cases hrel
  | some condition =>
    rw [hcondition] at hrel
    cases hrel with
    | some h =>
      obtain ⟨declared, hget, hconvert⟩ := h
      obtain ⟨compiled, hcompiled⟩ := exists_converts hconvert
      obtain ⟨condition', hconvert', hcompile⟩ := hcompiled
      obtain rfl : condition = condition' := Except.ok.inj (hconvert.symm.trans hconvert')
      exact ⟨declared, condition, compiled, hget, rfl, hcompile, condition, hconvert, hcompile⟩

/-- What the predicate of an expression asks of a field comes from its last clause. -/
theorem exists_lastValue?_of_get? {schema : Schema} {e : String} {p : Predicate}
    (he : e ≠ "") (hp : compile schema (some e) = .ok p) {field : String} {condition : Condition}
    (hget : p.get? field = some condition) : ∃ raw, lastValue? e field = some raw := by
  have hrel := rel_lastValue?_get? he hp field
  rw [hget] at hrel
  cases hraw : lastValue? e field with
  | none => rw [hraw] at hrel; cases hrel
  | some raw => exact ⟨raw, rfl⟩

/-- Expressions with the same last clauses compile to one predicate. -/
theorem eq_of_lastValue? {schema : Schema} {e e' : String} {p p' : Predicate} (he : e ≠ "")
    (he' : e' ≠ "") (hp : compile schema (some e) = .ok p)
    (hp' : compile schema (some e') = .ok p')
    (h : ∀ field, lastValue? e' field = lastValue? e field) : p' = p := by
  refine SortedMap.ext_get? fun field => ?_
  have hrel := rel_lastValue?_get? he hp field
  have hrel' := rel_lastValue?_get? he' hp' field
  rw [h field] at hrel'
  -- both sides are of the same shape, and a value converts to one condition
  generalize lastValue? e field = value at hrel hrel'
  generalize p.get? field = condition at hrel ⊢
  generalize p'.get? field = condition' at hrel' ⊢
  cases hrel with
  | none => cases hrel'; rfl
  | some hconvert =>
    cases hrel' with
    | some hconvert' =>
      obtain ⟨declared, hget, hconvert⟩ := hconvert
      obtain ⟨declared', hget', hconvert'⟩ := hconvert'
      obtain rfl : declared = declared' := Option.some.inj (hget.symm.trans hget')
      obtain rfl := Except.ok.inj (hconvert.symm.trans hconvert')
      rfl

/-- An expression of acceptable clauses is accepted. -/
theorem exists_compile {schema : Schema} {e : String} (he : e ≠ "")
    (h : ∀ clause ∈ clauses e, ∃ entry, compileClause schema clause = .ok entry) :
    ∃ p, compile schema (some e) = .ok p := by
  obtain ⟨entries, hentries⟩ := exists_forall₂_of_forall_mem h
  exact ⟨SortedMap.ofList entries, (compile_eq_ok_iff he _).2 ⟨entries, hentries, rfl⟩⟩

/-- The predicate of an accepted expression compiles. -/
theorem exists_compile?_of_compile {schema : Schema} {e : String} {p : Predicate} (he : e ≠ "")
    (hp : compile schema (some e) = .ok p) : ∃ filter, p.compile? = some filter := by
  refine Predicate.exists_compile? fun field condition hget => ?_
  obtain ⟨raw, hlast⟩ := exists_lastValue?_of_get? he hp hget
  obtain ⟨-, condition', compiled, -, hget', hcompile, -⟩ :=
    exists_converts_of_lastValue? he hp hlast
  obtain rfl : condition = condition' := Option.some.inj (hget.symm.trans hget')
  exact ⟨compiled, hcompile⟩

/-- An accepted filter compiles, and it means what the tokens of the last clauses of its fields mean
when each of them is a filter of its own. -/
theorem compile_meaning (schema : Schema) (e : String) (he : e ≠ "") (p : Predicate)
    (hp : compile schema (some e) = .ok p) :
    ∃ filter, p.compile? = some filter ∧ Meaning schema e p filter := by
  obtain ⟨filter, hfilter⟩ := exists_compile?_of_compile he hp
  have hholds : ∀ d : Document, filter.holds d = true ↔
      ∀ field raw, lastValue? e field = some raw → ∀ token ∈ tokens schema field raw,
        ∃ alone, CompilesTo schema (clauseText field token) alone ∧ alone.holds d = true := by
    intro d
    rw [Predicate.holds_iff hfilter]
    constructor
    · intro h field raw hlast
      obtain ⟨declared, condition, compiled, hdeclared, hget, hcompile, hconverts⟩ :=
        exists_converts_of_lastValue? he hp hlast
      obtain ⟨compiled', hcompile', hd⟩ := h field condition hget
      obtain rfl : compiled = compiled' := Option.some.inj (hcompile.symm.trans hcompile')
      exact ((holdsAt_iff_alone hlast hdeclared hconverts).2 d).1 hd
    · intro h field condition hget
      obtain ⟨raw, hlast⟩ := exists_lastValue?_of_get? he hp hget
      obtain ⟨declared, condition', compiled, hdeclared, hget', hcompile, hconverts⟩ :=
        exists_converts_of_lastValue? he hp hlast
      obtain rfl : condition = condition' := Option.some.inj (hget.symm.trans hget')
      exact ⟨compiled, hcompile,
        ((holdsAt_iff_alone hlast hdeclared hconverts).2 d).2 (h field raw hlast)⟩
  refine ⟨filter, hfilter, ?accepted, hholds, ?last, ?missing⟩
  case accepted =>
    intro field raw hlast
    obtain ⟨declared, -, compiled, hdeclared, -, -, hconverts⟩ :=
      exists_converts_of_lastValue? he hp hlast
    exact (holdsAt_iff_alone hlast hdeclared hconverts).1
  case last =>
    intro e' he' hclauses hsame
    obtain ⟨p', hp'⟩ := exists_compile he' hclauses
    rw [hp', eq_of_lastValue? he he' hp hp' hsame]
  case missing =>
    rintro d ⟨field, raw⟩ hmem hd
    obtain ⟨last, hlast⟩ := exists_lastValue? hmem
    obtain ⟨-, condition, -, -, hget, -⟩ := exists_converts_of_lastValue? he hp hlast
    -- the condition of the field asks for a value that is not null
    rw [Bool.eq_false_iff]
    intro hfilterHolds
    obtain ⟨compiled, -, value, hvalue, hnull, -⟩ :=
      (Predicate.holds_iff hfilter d).1 hfilterHolds field condition hget
    rcases hd with hd | hd
    · cases hd.symm.trans hvalue
    · exact hnull (Option.some.inj (hvalue.symm.trans hd))

/-- A number and a list of numbers. -/
def sampleSchema : Schema :=
  SortedMap.ofList [("scores", .arrayOf .integer), ("year", .scalar .integer)]

/-- A filter that names the year twice and asks for two scores. -/
def sampleText : String := "year:1979,scores:7|8,year:1986"

/-- What the filter compiles to. -/
def samplePredicate : Predicate :=
  SortedMap.ofList [("scores", .allOf [.equals (.integer 7), .equals (.integer 8)]),
    ("year", .single (.equals (.integer 1986)))]

/-- The filter means the second year and both scores. -/
theorem compile_meaning_sample :
    sampleText ≠ "" ∧ compile sampleSchema (some sampleText) = .ok samplePredicate ∧
    ∃ filter, samplePredicate.compile? = some filter ∧
      Meaning sampleSchema sampleText samplePredicate filter :=
  ⟨by decide, rfl, compile_meaning sampleSchema sampleText (by decide) samplePredicate rfl⟩

example : lastValue? "year:1979,scores:7|8,year:1986" "year" = some ['1', '9', '8', '6'] := rfl

end Filter

end Catalog
