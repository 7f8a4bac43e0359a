import Catalog.Proofs.CharacterBytes
import Catalog.Proofs.IntegerFields
import Catalog.Proofs.ReleaseDates
import Catalog.Proofs.TypedConditions

/-!
# The grammar of filters

A filter is cut at its commas into clauses, a clause at its first colon into a field and a value,
and the value of an array field at its bars into tokens. It is accepted when each clause is, and
then each field has the condition of its last clause. Otherwise the first clause that is not
accepted tells the error, even when a later clause of its field takes its place.

## Key results

- `Filter.isClauses_iff`: the clauses of an expression
- `Filter.convert_eq_ok_iff`: the values of a type
- `Filter.compileClause_eq_error_iff`: what is wrong with a clause
- `Filter.collects_iff`: the predicate that accepted clauses make
- `Filter.compile_grammar`: accepted and refused expressions
-/

namespace Catalog

/-! ## Values -/

/-- A token of a type and the test that it stands for. -/
inductive Test.OfToken : ScalarType → List Char → Test → Prop where
  /-- A text is a pattern, if it compiles. -/
  | pattern {raw : List Char} (h : (TextPattern.mk (String.ofList raw) true).compile?.isSome = true) :
    OfToken .string raw (.pattern ⟨String.ofList raw, true⟩)
  /-- An integer of 64 bits in decimal. -/
  | integer {raw : List Char} {n : Int64} (h : Numeral.IntegerText raw n.toInt) :
    OfToken .integer raw (.equals (.integer n))
  /-- A text of a finite double. -/
  | float {raw : List Char} {x : Binary64} (h : Binary64.readFinite? raw = some x) :
    OfToken .float raw (.equals (.float x))
  /-- The same by its other name. -/
  | number {raw : List Char} {x : Binary64} (h : Binary64.readFinite? raw = some x) :
    OfToken .number raw (.equals (.float x))
  /-- A text of a date. -/
  | date {raw : List Char} {t : Instant} (h : Instant.Denotes raw t) :
    OfToken .date raw (.equals (.date t))

/-- A value of a field of a type and the condition that it stands for. -/
inductive Condition.OfValue : FieldType → List Char → Condition → Prop where
  /-- A single value is a single token. -/
  | scalar {type : ScalarType} {raw : List Char} {test : Test} (h : test.OfToken type raw) :
    OfValue (.scalar type) raw (.single test)
  /-- A list, other than one of dates, has its tokens between bars. -/
  | arrayOf {type : ScalarType} {raw : List Char} {tokens : List (List Char)} {tests : List Test}
    (hdate : type ≠ .date) (hcut : Text.CutAt '|' raw tokens)
    (h : List.Forall₂ (Test.OfToken type) tokens tests) :
    OfValue (.arrayOf type) raw (.allOf tests)

/-- What a token of a type should have been, as errors word it. -/
def ScalarType.expectation : ScalarType → String
  | .string => "regular expression"
  | .float => "number"
  | type => type.name

namespace Filter

/-- A clause of an expression with its field and its value: what is before and behind its first
colon. The value is empty when there is no colon. -/
inductive IsClause : List Char → String × List Char → Prop where
  | colon {field : String} {raw : List Char} (h : ':' ∉ field.toList) :
    IsClause (field.toList ++ ':' :: raw) (field, raw)
  | bare {field : String} (h : ':' ∉ field.toList) : IsClause field.toList (field, [])

/-- The clauses of an expression are what is between its commas. -/
def IsClauses (e : String) (clauses : List (String × List Char)) : Prop :=
  ∃ pieces, Text.CutAt ',' e.toList pieces ∧ List.Forall₂ IsClause pieces clauses

/-- A clause is accepted: its field is declared, and its value stands for the condition. -/
def ClauseSays (schema : Schema) (clause : String × List Char) (condition : Condition) : Prop :=
  ∃ declared, schema.get? clause.1 = some declared ∧ condition.OfValue declared clause.2

/-- What is wrong with a clause. -/
inductive ClauseFault (schema : Schema) : String × List Char → QueryError → Prop where
  /-- Its field is not declared. -/
  | unknown {field : String} {raw : List Char} (h : schema.get? field = none) :
    ClauseFault schema (field, raw) (.invalidField field)
  /-- Its field is of a type that filters do not take, whatever the value is. -/
  | unsupported {field : String} {raw : List Char} {declared : FieldType}
    (h : schema.get? field = some declared) (htype : declared.isFilterable = false) :
    ClauseFault schema (field, raw) (.unsupportedType field declared)
  /-- Its value is none of the type. -/
  | value {field : String} {raw : List Char} {type : ScalarType}
    (h : schema.get? field = some (.scalar type))
    (htype : (FieldType.scalar type).isFilterable = true)
    (hbad : ∀ test : Test, ¬ test.OfToken type raw) :
    ClauseFault schema (field, raw) (.invalidValue field (String.ofList raw) type.expectation)
  /-- A token of its value is none of the type, and it is the first such token. -/
  | token {field : String} {raw : List Char} {type : ScalarType}
    (h : schema.get? field = some (.arrayOf type))
    (htype : (FieldType.arrayOf type).isFilterable = true)
    {before after : List (List Char)} {token : List Char}
    (hcut : Text.CutAt '|' raw (before ++ token :: after))
    (hbefore : ∀ earlier ∈ before, ∃ test : Test, test.OfToken type earlier)
    (hbad : ∀ test : Test, ¬ test.OfToken type token) :
    ClauseFault schema (field, raw) (.invalidValue field (String.ofList token) type.expectation)

/-- The predicate `p` is what accepted clauses say. -/
structure Collects (schema : Schema) (clauses : List (String × List Char)) (p : Predicate) :
    Prop where
  /-- Each clause is accepted, those that a later one replaces included. -/
  accepted : ∀ clause ∈ clauses, ∃ condition, ClauseSays schema clause condition
  /-- The fields are those of the clauses. -/
  fields : ∀ field, field ∈ p.keys ↔ field ∈ clauses.map Prod.fst
  /-- They are in the order of their bytes. -/
  ordered : p.keys.Pairwise fun field field' =>
    field.toList.flatMap Text.utf8Bytes < field'.toList.flatMap Text.utf8Bytes
  /-- The last clause of a field tells its condition. -/
  last : ∀ before field raw after, clauses = before ++ (field, raw) :: after →
    field ∉ after.map Prod.fst →
      ∃ condition, p.get? field = some condition ∧ ClauseSays schema (field, raw) condition

/-- The first clause that is not accepted has the fault. -/
def FirstFault (schema : Schema) (clauses : List (String × List Char)) (cause : QueryError) : Prop :=
  ∃ before clause after, clauses = before ++ clause :: after ∧
    (∀ earlier ∈ before, ∃ condition, ClauseSays schema earlier condition) ∧
    ClauseFault schema clause cause

/-! ## Cutting expressions -/

theorem isClause_iff {piece : List Char} {clause : String × List Char} :
    IsClause piece clause ↔ splitClause piece = clause := by
  constructor
  · intro h
    cases h with
    | colon h => simp only [splitClause, Text.splitFirst?_append h, String.ofList_toList]
    | @bare field h =>
      unfold splitClause
      split
      · next before after hcut =>
        -- a cut would need a colon
        have hmem := (Text.splitFirst?_eq_some hcut).1
        rw [hmem] at h
        simp at h
      · rw [String.ofList_toList]
  · intro h
    subst h
    unfold splitClause
    split
    · next before after hcut =>
      obtain ⟨rfl, hnot⟩ := Text.splitFirst?_eq_some hcut
      have h : ':' ∉ (String.ofList before).toList := by rwa [String.toList_ofList]
      have hclause : IsClause ((String.ofList before).toList ++ ':' :: after)
          (String.ofList before, after) := .colon h
      rwa [String.toList_ofList] at hclause
    · next hcut =>
      have h : ':' ∉ (String.ofList piece).toList := by
        rw [String.toList_ofList]
        exact Text.splitFirst?_eq_none hcut
      have hclause := IsClause.bare h
      rwa [String.toList_ofList] at hclause

theorem isClauses_iff {e : String} {clauses' : List (String × List Char)} :
    IsClauses e clauses' ↔ named e = clauses' := by
  have hclause : IsClause = fun piece clause => splitClause piece = clause := by
    funext piece clause
    exact propext isClause_iff
  simp only [IsClauses, Text.cutAt_iff, exists_eq_left', named, clauses, hclause]
  rw [← List.forall₂_eq_eq_eq, List.forall₂_map_left_iff]

/-! ## Reading values -/

section Readers

variable {type : ScalarType} {read : String → List Char → Except QueryError Test} {field : String}
  {raw : List Char} {cause : QueryError}

/-- What a reader reads are the tokens of its type. -/
theorem reads_iff_ofToken {test : Test} : Reads type raw test ↔ test.OfToken type raw := by
  constructor
  · intro h
    cases h with
    | pattern h => exact .pattern h
    | integer h => exact .integer (Numeral.readInt64_eq_ok_iff.1 h)
    | float h => exact .float h
    | number h => exact .number h
    | date h => exact .date (instant?_eq_some_iff.1 h)
  · intro h
    cases h with
    | pattern h => exact .pattern h
    | integer h => exact .integer (Numeral.readInt64_eq_ok_iff.2 h)
    | float h => exact .float h
    | number h => exact .number h
    | date h => exact .date (instant?_eq_some_iff.2 h)

/-- A reader takes the tokens of its type. -/
theorem read_eq_ok_iff (hread : reader? type = some read) {test : Test} :
    read field raw = .ok test ↔ test.OfToken type raw :=
  (reader?_eq_ok_iff hread).trans reads_iff_ofToken

/-- What a reader says of a token that it does not take. -/
private theorem error_of_reader? (hread : reader? type = some read)
    (h : read field raw = .error cause) :
    cause = .invalidValue field (String.ofList raw) type.expectation := by
  cases type <;> cases hread
  case string =>
    unfold pattern at h
    simp only at h
    split at h <;> cases h
    rfl
  case integer => unfold integer at h; split at h <;> cases h; rfl
  case float => unfold float at h; split at h <;> cases h; rfl
  case number => unfold float at h; split at h <;> cases h; rfl
  case date => unfold date at h; split at h <;> cases h; rfl

theorem read_eq_error_iff (hread : reader? type = some read) :
    read field raw = .error cause ↔ (∀ test : Test, ¬ test.OfToken type raw) ∧
      cause = .invalidValue field (String.ofList raw) type.expectation := by
  constructor
  · intro h
    refine ⟨fun test htest => ?_, error_of_reader? hread h⟩
    rw [(read_eq_ok_iff hread).2 htest] at h
    cases h
  · rintro ⟨hbad, rfl⟩
    cases h : read field raw with
    | ok test => exact absurd ((read_eq_ok_iff hread).1 h) (hbad test)
    | error cause => rw [error_of_reader? hread h]

end Readers

/-! ## Converting values -/

section Convert

variable {field : String} {declared : FieldType} {raw : List Char} {type : ScalarType}
  {cause : QueryError}

/-- A reader of single values, or of tokens of lists, that is missing. -/
private theorem reader?_eq_none_iff :
    reader? type = none ↔ (FieldType.scalar type).isFilterable = false := by
  cases type <;> simp [reader?, FieldType.isFilterable]

private theorem elementReader?_eq_none_iff :
    elementReader? type = none ↔ (FieldType.arrayOf type).isFilterable = false := by
  cases type <;> simp [elementReader?, reader?, FieldType.isFilterable]

/-- A value converts to the condition that it stands for. -/
theorem convert_eq_ok_iff {condition : Condition} :
    convert field declared raw = .ok condition ↔ condition.OfValue declared raw := by
  cases declared with
  | scalar type =>
    cases hread : reader? type with
    | none =>
      simp only [convert, hread]
      constructor
      · intro h
        cases h
      · intro h
        cases h with
        | scalar h => cases h <;> cases hread
    | some read =>
      simp only [convert, hread, map_eq_ok_iff, read_eq_ok_iff hread]
      constructor
      · intro h
        obtain ⟨test, htest, rfl⟩ := h
        exact .scalar htest
      · intro h
        cases h with
        | scalar h => exact ⟨_, h, rfl⟩
  | arrayOf type =>
    cases hread : elementReader? type with
    | none =>
      simp only [convert, hread]
      constructor
      · intro h
        cases h
      · intro h
        cases h with
        | @arrayOf _ _ tokens _ hdate hcut h =>
          -- a token tells the type, and the type is not that of dates
          obtain ⟨token, htoken⟩ := List.exists_mem_of_ne_nil tokens hcut.ne_nil
          obtain ⟨test, -, htest⟩ := exists_of_forall₂_left h htoken
          cases htest with
          | date => exact absurd rfl hdate
          | _ => cases hread
    | some read =>
      simp only [convert, hread, map_eq_ok_iff, mapM_eq_ok_iff,
        read_eq_ok_iff (reader?_of_elementReader? hread)]
      constructor
      · intro h
        obtain ⟨tests, htests, rfl⟩ := h
        refine .arrayOf ?_ (Text.cutAt_iff.2 rfl) htests
        intro hdate
        subst hdate
        cases hread
      · intro h
        cases h with
        | arrayOf _ hcut h =>
          rw [← Text.cutAt_iff.1 hcut] at h
          exact ⟨_, h, rfl⟩

/-- A value of a single field does not convert when it is none of the type. -/
theorem convert_scalar_eq_error_iff :
    convert field (.scalar type) raw = .error cause ↔
      ((FieldType.scalar type).isFilterable = false ∧
        cause = .unsupportedType field (.scalar type)) ∨
      ((FieldType.scalar type).isFilterable = true ∧ (∀ test : Test, ¬ test.OfToken type raw) ∧
        cause = .invalidValue field (String.ofList raw) type.expectation) := by
  cases hread : reader? type with
  | none => simp [convert, hread, reader?_eq_none_iff.1 hread, eq_comm]
  | some read =>
    have htype : (FieldType.scalar type).isFilterable = true := by
      rw [← Bool.not_eq_false, ← reader?_eq_none_iff, hread]
      exact Option.some_ne_none read
    simp [convert, hread, htype, map_eq_error_iff, read_eq_error_iff hread]

/-- A value of a list does not convert when one of its tokens is none of the type; the first such
token is told. -/
theorem convert_arrayOf_eq_error_iff :
    convert field (.arrayOf type) raw = .error cause ↔
      ((FieldType.arrayOf type).isFilterable = false ∧
        cause = .unsupportedType field (.arrayOf type)) ∨
      ((FieldType.arrayOf type).isFilterable = true ∧ ∃ before token after,
        Text.CutAt '|' raw (before ++ token :: after) ∧
        (∀ earlier ∈ before, ∃ test : Test, test.OfToken type earlier) ∧
        (∀ test : Test, ¬ test.OfToken type token) ∧
        cause = .invalidValue field (String.ofList token) type.expectation) := by
  cases hread : elementReader? type with
  | none => simp [convert, hread, elementReader?_eq_none_iff.1 hread, eq_comm]
  | some read =>
    have htype : (FieldType.arrayOf type).isFilterable = true := by
      rw [← Bool.not_eq_false, ← elementReader?_eq_none_iff, hread]
      exact Option.some_ne_none read
    have hreader := reader?_of_elementReader? hread
    simp [convert, hread, htype, map_eq_error_iff, mapM_eq_error_iff, Text.cutAt_iff,
      read_eq_ok_iff hreader, read_eq_error_iff hreader]

end Convert

/-! ## Clauses -/

section Clauses

variable {schema : Schema} {piece : List Char} {clause : String × List Char}

/-- A clause compiles when it is accepted, to its field and the condition that it says. -/
theorem compileClause_eq_ok_iff_clauseSays (h : splitClause piece = clause)
    {entry : String × Condition} :
    compileClause schema piece = .ok entry ↔
      clause.1 = entry.1 ∧ ClauseSays schema clause entry.2 := by
  rw [compileClause_eq_ok_iff, h]
  simp only [convert_eq_ok_iff, ClauseSays]
  constructor
  · intro hclause
    obtain ⟨hfield, declared, hget, hvalue⟩ := hclause
    exact ⟨hfield, declared, hfield ▸ hget, hvalue⟩
  · intro hclause
    obtain ⟨hfield, declared, hget, hvalue⟩ := hclause
    exact ⟨hfield, declared, hfield ▸ hget, hvalue⟩

/-- A clause that does not compile has a fault. -/
theorem compileClause_eq_error_iff (h : splitClause piece = clause) {cause : QueryError} :
    compileClause schema piece = .error cause ↔ ClauseFault schema clause cause := by
  obtain ⟨field, raw⟩ := clause
  simp only [compileClause, h]
  cases hget : schema.get? field with
  | none =>
    simp only
    constructor
    · intro hcause
      cases hcause
      exact .unknown hget
    · intro hfault
      cases hfault with
      | unknown => rfl
      | unsupported hget' | value hget' | token hget' => cases hget.symm.trans hget'
  | some declared =>
    simp only [map_eq_error_iff]
    cases declared with
    | scalar type =>
      rw [convert_scalar_eq_error_iff]
      constructor
      · rintro (⟨htype, rfl⟩ | ⟨htype, hbad, rfl⟩)
        · exact .unsupported hget htype
        · exact .value hget htype hbad
      · intro hfault
        cases hfault with
        | unknown hget' => cases hget.symm.trans hget'
        | unsupported hget' htype =>
          cases hget.symm.trans hget'
          exact .inl ⟨htype, rfl⟩
        | value hget' htype hbad =>
          cases hget.symm.trans hget'
          exact .inr ⟨htype, hbad, rfl⟩
        | token hget' => cases hget.symm.trans hget'
    | arrayOf type =>
      rw [convert_arrayOf_eq_error_iff]
      constructor
      · rintro (⟨htype, rfl⟩ | ⟨htype, before, token, after, hcut, hbefore, hbad, rfl⟩)
        · exact .unsupported hget htype
        · exact .token hget htype hcut hbefore hbad
      · intro hfault
        cases hfault with
        | unknown hget' => cases hget.symm.trans hget'
        | unsupported hget' htype =>
          cases hget.symm.trans hget'
          exact .inl ⟨htype, rfl⟩
        | value hget' => cases hget.symm.trans hget'
        | token hget' htype hcut hbefore hbad =>
          cases hget.symm.trans hget'
          exact .inr ⟨htype, _, _, _, hcut, hbefore, hbad, rfl⟩

theorem ClauseSays.unique {condition condition' : Condition}
    (h : ClauseSays schema clause condition) (h' : ClauseSays schema clause condition') :
    condition = condition' := by
  obtain ⟨declared, hget, hvalue⟩ := h
  obtain ⟨declared', hget', hvalue'⟩ := h'
  obtain rfl : declared = declared' := Option.some.inj (hget.symm.trans hget')
  have hconvert : convert clause.1 declared clause.2 = .ok condition := convert_eq_ok_iff.2 hvalue
  exact Except.ok.inj (hconvert.symm.trans (convert_eq_ok_iff.2 hvalue'))

end Clauses

/-! ## Predicates of clauses -/

section Predicates

variable {schema : Schema} {clauses : List (String × List Char)} {p : Predicate}

/-- Clauses with the entries that they make: the field and the condition that each says. -/
def Entries (schema : Schema) (clauses : List (String × List Char))
    (entries : List (String × Condition)) : Prop :=
  List.Forall₂ (fun clause entry => clause.1 = entry.1 ∧ ClauseSays schema clause entry.2) clauses
    entries

/-- The last entry of a field is that of its last clause. -/
theorem Entries.rel_lookup {entries : List (String × Condition)}
    (h : Entries schema clauses entries) (field : String) :
    Option.Rel (fun raw condition => ClauseSays schema (field, raw) condition)
      (clauses.reverse.lookup field) (entries.reverse.lookup field) := by
  apply lookup_of_forall₂ (R := fun field raw condition => ClauseSays schema (field, raw) condition)
  rw [List.forall₂_reverse_iff]
  exact h

/-- Accepted clauses have entries. -/
theorem exists_entries (h : ∀ clause ∈ clauses, ∃ condition, ClauseSays schema clause condition) :
    ∃ entries, Entries schema clauses entries := by
  apply exists_forall₂_of_forall_mem
  intro clause hclause
  obtain ⟨condition, hsays⟩ := h clause hclause
  exact ⟨(clause.1, condition), rfl, hsays⟩

/-- The entries of accepted clauses, put together, are the one predicate that they say. -/
theorem collects_iff :
    Collects schema clauses p ↔ ∃ entries, Entries schema clauses entries ∧
      SortedMap.ofList entries = p := by
  constructor
  · intro h
    obtain ⟨entries, hentries⟩ := exists_entries h.accepted
    refine ⟨entries, hentries, SortedMap.ext_get? fun field => ?_⟩
    have hrel := hentries.rel_lookup field
    rw [SortedMap.get?_ofList]
    cases hlast : clauses.reverse.lookup field with
    | none =>
      rw [hlast] at hrel
      generalize entries.reverse.lookup field = condition at hrel
      cases hrel
      -- the field of no clause is none of the predicate
      rw [SortedMap.lookup_reverse_eq_none_iff, ← h.fields, SortedMap.mem_keys_iff] at hlast
      rw [eq_comm, Option.eq_none_iff_forall_ne_some]
      exact fun condition hcondition => hlast ⟨condition, hcondition⟩
    | some raw =>
      rw [hlast] at hrel
      generalize entries.reverse.lookup field = condition at hrel
      cases hrel with
      | some hsays =>
        obtain ⟨before, after, hsplit, hafter⟩ := SortedMap.lookup_reverse_eq_some_iff.1 hlast
        obtain ⟨condition', hget, hsays'⟩ := h.last before field raw after hsplit hafter
        rw [hget, hsays.unique hsays']
  · intro h
    obtain ⟨entries, hentries, rfl⟩ := h
    refine ⟨?accepted, ?fields, ?ordered, ?last⟩
    case accepted =>
      intro clause hclause
      obtain ⟨entry, -, -, hsays⟩ := exists_of_forall₂_left hentries hclause
      exact ⟨entry.2, hsays⟩
    case fields =>
      intro field
      have hrel := hentries.rel_lookup field
      rw [SortedMap.mem_keys_iff, SortedMap.get?_ofList, ← not_iff_not,
        ← SortedMap.lookup_reverse_eq_none_iff]
      generalize clauses.reverse.lookup field = raw at hrel
      generalize entries.reverse.lookup field = condition at hrel
      cases hrel <;> simp
    case ordered =>
      rw [SortedMap.keys, List.pairwise_map]
      refine (SortedMap.ofList entries).sorted.imp fun h => ?_
      exact Text.flatMap_utf8Bytes_lt (String.lt_iff.1 h)
    case last =>
      intro before field raw after hsplit hafter
      have hrel := hentries.rel_lookup field
      rw [SortedMap.lookup_reverse_eq_some_iff.2 ⟨before, after, hsplit, hafter⟩] at hrel
      rw [SortedMap.get?_ofList]
      generalize entries.reverse.lookup field = condition at hrel
      cases hrel with
      | some hsays => exact ⟨_, rfl, hsays⟩

/-- Accepted clauses make a predicate. -/
theorem exists_collects_iff :
    (∃ p, Collects schema clauses p) ↔
      ∀ clause ∈ clauses, ∃ condition, ClauseSays schema clause condition := by
  constructor
  · intro h
    obtain ⟨p, hp⟩ := h
    exact hp.accepted
  · intro h
    obtain ⟨entries, hentries⟩ := exists_entries h
    exact ⟨_, collects_iff.2 ⟨entries, hentries, rfl⟩⟩

end Predicates

/-! ## Expressions -/

section Expressions

variable {schema : Schema} {e : String}

/-- An accepted expression compiles to the predicate of its clauses. -/
theorem compile_eq_ok_iff_collects (he : e ≠ "") {p : Predicate} :
    compile schema (some e) = .ok p ↔ Collects schema (named e) p := by
  simp only [compile_eq_ok_iff he, collects_iff, Entries, named, List.forall₂_map_left_iff,
    compileClause_eq_ok_iff_clauseSays rfl]

/-- An expression is refused with the fault of its first clause that is not accepted. -/
theorem compile_eq_error_iff (he : e ≠ "") {cause : QueryError} :
    compile schema (some e) = .error cause ↔ FirstFault schema (named e) cause := by
  have hne : ¬ e.isEmpty = true := by rwa [String.isEmpty_iff]
  have haccepted : ∀ piece : List Char,
      (∃ entry, compileClause schema piece = .ok entry) ↔
        ∃ condition, ClauseSays schema (splitClause piece) condition := by
    intro piece
    simp only [compileClause_eq_ok_iff_clauseSays rfl, Prod.exists, exists_and_left, exists_eq_left']
  simp only [compile, if_neg hne, map_eq_error_iff, mapM_eq_error_iff, haccepted,
    compileClause_eq_error_iff rfl]
  constructor
  · intro h
    obtain ⟨before, piece, after, hsplit, hbefore, hfault⟩ := h
    refine ⟨before.map splitClause, splitClause piece, after.map splitClause, ?_, ?_, hfault⟩
    · rw [named, hsplit, List.map_append, List.map_cons]
    · intro earlier hearlier
      obtain ⟨piece', hpiece', rfl⟩ := List.mem_map.1 hearlier
      exact hbefore piece' hpiece'
  · intro h
    obtain ⟨before, clause, after, hsplit, hbefore, hfault⟩ := h
    -- each clause comes from a piece of the expression
    obtain ⟨pieces, rest, hpieces, rfl, hrest⟩ := List.map_eq_append_iff.1 hsplit
    obtain ⟨piece, later, rfl, rfl, rfl⟩ := List.map_eq_cons_iff.1 hrest
    refine ⟨pieces, piece, later, hpieces, fun piece' hpiece' => ?_, hfault⟩
    exact hbefore _ (List.mem_map_of_mem hpiece')

end Expressions

/-- Compiling keeps to the grammar, all or nothing: the clauses of an expression are told by its
separators; it is accepted exactly when each clause is, with the predicate that the clauses say;
and it is refused with the fault of the first clause that is not accepted. -/
theorem compile_grammar (schema : Schema) (e : String) (he : e ≠ "") :
    ∃ clauses, (∀ clauses', IsClauses e clauses' ↔ clauses' = clauses) ∧
      ((∃ p, compile schema (some e) = .ok p) ↔
        ∀ clause ∈ clauses, ∃ condition, ClauseSays schema clause condition) ∧
      (∀ p, compile schema (some e) = .ok p ↔ Collects schema clauses p) ∧
      ∀ cause, compile schema (some e) = .error cause ↔ FirstFault schema clauses cause := by
  refine ⟨named e, fun clauses' => ?clauses, ?accepted, fun p => ?predicate, fun cause => ?fault⟩
  case clauses => rw [isClauses_iff, eq_comm]
  case accepted => simp only [compile_eq_ok_iff_collects he, exists_collects_iff]
  case predicate => exact compile_eq_ok_iff_collects he
  case fault => exact compile_eq_error_iff he

/-- An expression whose first clause is not accepted, though the last one takes its place. -/
def refusedText : String := "year:soon,scores:7|x|y,year:1986"

/-- An accepted expression and a refused one. -/
theorem compile_grammar_sample :
    (sampleText ≠ "" ∧
      Collects sampleSchema [("year", "1979".toList), ("scores", "7|8".toList),
        ("year", "1986".toList)] samplePredicate) ∧
    (refusedText ≠ "" ∧
      FirstFault sampleSchema [("year", "soon".toList), ("scores", "7|x|y".toList),
        ("year", "1986".toList)] (.invalidValue "year" "soon" "integer")) := by
  have haccepted : sampleText ≠ "" := by decide
  have hrefused : refusedText ≠ "" := by decide
  obtain ⟨clauses, hclauses, -, hpredicate, -⟩ := compile_grammar sampleSchema sampleText haccepted
  obtain ⟨clauses', hclauses', -, -, hfault⟩ := compile_grammar sampleSchema refusedText hrefused
  -- the clauses are what the separators leave
  obtain rfl := (hclauses _).1 (isClauses_iff.2 rfl)
  obtain rfl := (hclauses' _).1 (isClauses_iff.2 rfl)
  exact ⟨⟨haccepted, (hpredicate samplePredicate).1 rfl⟩, hrefused, (hfault _).1 rfl⟩

end Filter

end Catalog
