import Catalog.Proofs.FilterGrammar

/-!
# The order of clauses and tokens

Clauses of different fields may be written in any order: the filter is refused in every order or
compiles to one predicate in all of them. The tokens of an array field may be written in any order
and as often as one likes: the filter stays accepted or refused, and it holds of the same documents.

## Key results

- `Predicate.Fits.agrees_self`: a compiled predicate is equal to itself, for its floats are finite
- `Filter.compileAlike_of_perm`: the order of clauses
- `Filter.exists_ofValue_iff_tokens`: a value is accepted when each of its tokens is
- `Filter.matchAlike_of_sameTokens`: the order and the number of tokens
- `Filter.order_does_not_matter`: both together
-/

namespace Catalog

/-! ## Equality of predicates -/

theorem Binary64.sameNumber_self {x : Binary64} (h : x.isFinite = true) : x.sameNumber x = true := by
  simp only [isFinite, decide_eq_true_eq] at h
  simp [sameNumber, isNaN]
  omega

/-- A test of a declared type agrees with itself: no float in it is a NaN. -/
theorem Test.Fits.agrees_self {type : ScalarType} {test : Test} (h : test.Fits type) :
    test.agrees test = true := by
  cases h with
  | pattern | integer | date => simp [Test.agrees, Literal.agrees]
  | float h | number h => exact Binary64.sameNumber_self h

theorem Condition.Fits.agrees_self {declared : FieldType} {condition : Condition}
    (h : condition.Fits declared) : condition.agrees condition = true := by
  cases h with
  | scalar h => exact h.agrees_self
  | arrayOf _ _ h =>
    simp only [Condition.agrees, BEq.rfl, Bool.true_and, List.zip_eq_zipWith, List.zipWith_self,
      List.all_map, List.all_eq_true, Function.comp_apply]
    exact fun test htest => (h test htest).agrees_self

/-- A predicate that fits a schema agrees with itself. -/
theorem Predicate.Fits.agrees_self {schema : Schema} {p : Predicate} (h : p.Fits schema) :
    p.agrees p = true := by
  simp only [Predicate.agrees, BEq.rfl, Bool.true_and, List.zip_eq_zipWith, List.zipWith_self,
    List.all_map, List.all_eq_true, Function.comp_apply]
  intro entry hentry
  obtain ⟨declared, -, -, hfits⟩ := h entry.1 entry.2 ((SortedMap.mem_toList_iff p _ _).1 hentry)
  exact hfits.agrees_self

namespace Filter

/-! ## Joining clauses -/

/-- The expression of clauses, with commas between them. -/
def joined (clauses : List (List Char)) : String :=
  String.ofList (Text.joinWith ',' clauses)

/-- The expression is empty when there is no clause, or an empty one alone. -/
theorem joined_eq_empty_iff {pieces : List (List Char)} :
    joined pieces = "" ↔ pieces = [] ∨ pieces = [[]] := by
  rw [joined, ← String.toList_inj, String.toList_ofList]
  cases pieces with
  | nil => simp [Text.joinWith]
  | cons piece rest => cases rest <;> simp [Text.joinWith]

/-- Clauses without commas are the clauses of their expression. -/
theorem clauses_joined {pieces : List (List Char)} (he : joined pieces ≠ "")
    (hcomma : ∀ piece ∈ pieces, ',' ∉ piece) : clauses (joined pieces) = pieces := by
  have hne : pieces ≠ [] := fun hnil => he (joined_eq_empty_iff.2 (.inl hnil))
  rw [clauses, joined, String.toList_ofList, Text.splitOn_joinWith hne hcomma]

/-- The fields and values of the clauses of an expression. -/
theorem named_joined {pieces : List (List Char)} (he : joined pieces ≠ "")
    (hcomma : ∀ piece ∈ pieces, ',' ∉ piece) : named (joined pieces) = pieces.map splitClause := by
  rw [named, clauses_joined he hcomma]

/-- A filter that is not empty is accepted when each of its clauses is. -/
theorem exists_compile_iff {schema : Schema} {e : String} (he : e ≠ "") :
    (∃ p, compile schema (some e) = .ok p) ↔
      ∀ clause ∈ named e, ∃ condition, ClauseSays schema clause condition := by
  simp only [compile_eq_ok_iff_collects he, exists_collects_iff]

/-- Expressions that are accepted together are refused together. -/
theorem compile_cases {schema : Schema} {e e' : String}
    (h : (∃ p, compile schema (some e) = .ok p) ↔ ∃ p, compile schema (some e') = .ok p) :
    (∃ cause cause', compile schema (some e) = .error cause ∧
      compile schema (some e') = .error cause') ∨
    ∃ p p', compile schema (some e) = .ok p ∧ compile schema (some e') = .ok p' := by
  cases hcompile : compile schema (some e) with
  | ok p =>
    obtain ⟨p', hcompile'⟩ := h.1 ⟨p, hcompile⟩
    exact .inr ⟨p, p', rfl, hcompile'⟩
  | error cause =>
    cases hcompile' : compile schema (some e') with
    | error cause' => exact .inl ⟨cause, cause', rfl, rfl⟩
    | ok p' =>
      obtain ⟨p, hp⟩ := h.2 ⟨p', hcompile'⟩
      rw [hcompile] at hp
      cases hp

/-! ## The order of clauses -/

/-- Two expressions are both refused, or compile to predicates that are equal and list their fields
in one order. -/
inductive CompileAlike (schema : Schema) (e e' : String) : Prop where
  /-- Both are refused. -/
  | refused {cause cause' : QueryError} (h : compile schema (some e) = .error cause)
    (h' : compile schema (some e') = .error cause')
  /-- Both are accepted. -/
  | accepted {p p' : Predicate} (h : compile schema (some e) = .ok p)
    (h' : compile schema (some e') = .ok p') (hagrees : p.agrees p' = true)
    (hkeys : p.keys = p'.keys)

/-- An expression compiles like itself. -/
theorem CompileAlike.refl (schema : Schema) (e : String) : CompileAlike schema e e := by
  cases h : compile schema (some e) with
  | error cause => exact .refused h h
  | ok p => exact .accepted h h (fits_of_compile h).agrees_self rfl

section Permuted

variable {schema : Schema} {e e' : String}

/-- What is accepted does not depend on the order of the clauses. -/
private theorem exists_compile_iff_of_perm (he : e ≠ "") (he' : e' ≠ "")
    (h : (named e).Perm (named e')) :
    (∃ p, compile schema (some e) = .ok p) ↔ ∃ p, compile schema (some e') = .ok p := by
  rw [exists_compile_iff he, exists_compile_iff he']
  simp only [h.mem_iff]

/-- A clause that is the only one of its field is the last one in every order. -/
private theorem lastValue?_eq_of_perm (h : (named e).Perm (named e'))
    (hfields : ((named e).map Prod.fst).Nodup) (field : String) :
    lastValue? e field = lastValue? e' field := by
  apply SortedMap.lookup_eq_of_perm
  · exact (List.reverse_perm _).trans (h.trans (List.reverse_perm _).symm)
  · rwa [List.map_reverse, List.nodup_reverse]

end Permuted

/-- Clauses of different fields compile alike in every order. -/
theorem compileAlike_of_perm {schema : Schema} {pieces pieces' : List (List Char)}
    (hperm : pieces.Perm pieces') (hcomma : ∀ piece ∈ pieces, ',' ∉ piece)
    (hfields : (pieces.map fun piece => (splitClause piece).1).Nodup) :
    CompileAlike schema (joined pieces) (joined pieces') := by
  by_cases he : joined pieces = ""
  · -- there is only one order
    have hsame : pieces' = pieces := by
      rcases joined_eq_empty_iff.1 he with rfl | rfl
      · exact hperm.symm.eq_nil
      · exact List.perm_singleton.1 hperm.symm
    rw [hsame]
    exact .refl schema _
  · have he' : joined pieces' ≠ "" := by
      intro he'
      rcases joined_eq_empty_iff.1 he' with rfl | rfl
      · exact he (joined_eq_empty_iff.2 (.inl hperm.eq_nil))
      · exact he (joined_eq_empty_iff.2 (.inr (List.perm_singleton.1 hperm)))
    have hnamed := named_joined he hcomma
    have hnamed' := named_joined he' fun piece hpiece => hcomma piece (hperm.mem_iff.2 hpiece)
    have hclauses : (named (joined pieces)).Perm (named (joined pieces')) := by
      rw [hnamed, hnamed']
      exact hperm.map splitClause
    have hdistinct : ((named (joined pieces)).map Prod.fst).Nodup := by
      rwa [hnamed, List.map_map]
    have haccepted := @exists_compile_iff_of_perm schema _ _ he he' hclauses
    rcases compile_cases haccepted with
      ⟨cause, cause', h, h'⟩ | ⟨p, p', h, h'⟩
    · exact .refused h h'
    · -- a predicate is told by the last values of its fields
      obtain rfl : p' = p := eq_of_lastValue? he he' h h' fun field =>
        (lastValue?_eq_of_perm hclauses hdistinct field).symm
      exact .accepted h h' (fits_of_compile h).agrees_self rfl

/-! ## The order and the number of tokens -/

/-- Two clauses differ at most in the tokens of an array field, which they may put into another
order or repeat. The empty clause has no tokens: alone, it is the empty filter. -/
inductive SameTokens (schema : Schema) : List Char → List Char → Prop where
  /-- The clause is left as it is. -/
  | same (clause : List Char) : SameTokens schema clause clause
  /-- The tokens of an array field are the same, in any order and any number. -/
  | array {field : String} {element : ScalarType} {clause clause' raw raw' : List Char}
    {tokens tokens' : List (List Char)} (harray : schema.get? field = some (.arrayOf element))
    (hclause : IsClause clause (field, raw)) (hne : clause ≠ [])
    (hclause' : IsClause clause' (field, raw')) (hne' : clause' ≠ [])
    (hcut : Text.CutAt '|' raw tokens) (hcut' : Text.CutAt '|' raw' tokens')
    (hsame : ∀ token, token ∈ tokens ↔ token ∈ tokens') : SameTokens schema clause clause'

/-- Two expressions are both refused, or compile to filters that hold of the same documents. -/
inductive MatchAlike (schema : Schema) (e e' : String) : Prop where
  /-- Both are refused. -/
  | refused {cause cause' : QueryError} (h : compile schema (some e) = .error cause)
    (h' : compile schema (some e') = .error cause')
  /-- Both are accepted. -/
  | accepted {filter filter' : CompiledFilter} (h : CompilesTo schema e filter)
    (h' : CompilesTo schema e' filter') (hholds : ∀ d, filter.holds d = filter'.holds d)

section Tokens

variable {schema : Schema} {clause clause' : List Char}

/-- Both clauses are of one field, and their values have the same tokens. -/
theorem SameTokens.mem_tokens_iff (h : SameTokens schema clause clause') :
    (splitClause clause).1 = (splitClause clause').1 ∧
      ∀ token, token ∈ tokens schema (splitClause clause).1 (splitClause clause).2 ↔
        token ∈ tokens schema (splitClause clause).1 (splitClause clause').2 := by
  cases h with
  | same => exact ⟨rfl, fun _ => Iff.rfl⟩
  | array harray hclause _ hclause' _ hcut hcut' hsame =>
    rw [isClause_iff.1 hclause, isClause_iff.1 hclause']
    refine ⟨rfl, ?_⟩
    simp only [tokens, harray, tokensOf, Text.cutAt_iff.1 hcut, Text.cutAt_iff.1 hcut']
    exact hsame

/-- No comma comes in with the tokens. -/
theorem SameTokens.comma_not_mem (h : SameTokens schema clause clause') (hcomma : ',' ∉ clause) :
    ',' ∉ clause' := by
  cases h with
  | same => exact hcomma
  | @array field _ _ _ raw raw' tokens tokens' _ hclause _ hclause' _ hcut hcut' hsame =>
    obtain ⟨-, hfield, hraw⟩ := mem_of_splitClause (isClause_iff.1 hclause)
    have hraw' : ∀ c ∈ raw', c ≠ ',' := by
      rw [← hcut'.joined]
      apply Text.forall_mem_joinWith (p := (· ≠ ',')) (by decide)
      intro token htoken c hc
      -- the token is a piece of the other value
      rw [← hsame, ← Text.cutAt_iff.1 hcut] at htoken
      exact fun heq => hcomma (heq ▸ hraw c (Text.mem_of_mem_splitOn htoken hc))
    have hfield' : ',' ∉ field.toList := fun hm => hcomma (hfield _ hm)
    cases hclause' with
    | bare => exact hfield'
    | colon =>
      simp only [List.mem_append, List.mem_cons, not_or]
      exact ⟨hfield', by decide, fun hm => hraw' _ hm rfl⟩

theorem SameTokens.symm (h : SameTokens schema clause clause') :
    SameTokens schema clause' clause := by
  cases h with
  | same => exact .same _
  | array harray hclause hne hclause' hne' hcut hcut' hsame =>
    exact .array harray hclause' hne' hclause hne hcut' hcut fun token => (hsame token).symm

end Tokens

/-- A value is accepted when each of its tokens is, taken as a value of its own. -/
theorem exists_ofValue_iff_tokens {declared : FieldType} {raw : List Char} :
    (∃ condition : Condition, condition.OfValue declared raw) ↔
      ∀ token ∈ tokensOf declared raw, ∃ condition : Condition, condition.OfValue declared token := by
  cases declared with
  | scalar type => simp [tokensOf]
  | arrayOf type =>
    -- a token is cut at no bar
    have hcut : ∀ token ∈ Text.splitOn '|' raw, Text.CutAt '|' token [token] := fun token htoken =>
      Text.cutAt_iff.2 (Text.splitOn_of_not_mem (Text.not_mem_of_mem_splitOn htoken))
    constructor
    · intro h token htoken
      obtain ⟨condition, h⟩ := h
      cases h with
      | arrayOf hdate hcut' h =>
        obtain ⟨test, -, htest⟩ :=
          exists_of_forall₂_left h (by rwa [tokensOf, Text.cutAt_iff.1 hcut'] at htoken)
        exact ⟨.allOf [test], .arrayOf hdate (hcut token htoken) (.cons htest .nil)⟩
    · intro h
      have htests : ∀ token ∈ Text.splitOn '|' raw,
          type ≠ .date ∧ ∃ test : Test, test.OfToken type token := by
        intro token htoken
        obtain ⟨condition, hcondition⟩ := h token htoken
        cases hcondition with
        | arrayOf hdate hcut' htests =>
          rw [← Text.cutAt_iff.1 hcut', Text.cutAt_iff.1 (hcut token htoken)] at htests
          obtain ⟨test, -, htest⟩ := exists_of_forall₂_left htests List.mem_cons_self
          exact ⟨hdate, test, htest⟩
      obtain ⟨first, hfirst⟩ := List.exists_mem_of_ne_nil _ (Text.splitOn_ne_nil '|' raw)
      obtain ⟨tests, htests'⟩ :=
        exists_forall₂_of_forall_mem fun token htoken => (htests token htoken).2
      exact ⟨.allOf tests, .arrayOf (htests first hfirst).1 (Text.cutAt_iff.2 rfl) htests'⟩

section Tokens

variable {schema : Schema} {clause clause' : List Char} {pieces pieces' : List (List Char)}

/-- With its tokens, a clause keeps being accepted or refused. -/
theorem SameTokens.accepted (h : SameTokens schema clause clause')
    (haccepted : ∃ condition, ClauseSays schema (splitClause clause) condition) :
    ∃ condition, ClauseSays schema (splitClause clause') condition := by
  obtain ⟨hfield, htokens⟩ := h.mem_tokens_iff
  obtain ⟨condition, declared, hget, hvalue⟩ := haccepted
  simp only [tokens, hget] at htokens
  -- the tokens of the one value are those of the other
  have hvalue' : ∃ condition : Condition, condition.OfValue declared (splitClause clause').2 := by
    rw [exists_ofValue_iff_tokens]
    intro token htoken
    exact exists_ofValue_iff_tokens.1 ⟨condition, hvalue⟩ token ((htokens token).2 htoken)
  obtain ⟨condition', hvalue'⟩ := hvalue'
  exact ⟨condition', declared, hfield ▸ hget, hvalue'⟩

theorem SameTokens.forall₂_symm (h : List.Forall₂ (SameTokens schema) pieces pieces') :
    List.Forall₂ (SameTokens schema) pieces' pieces :=
  h.flip.imp fun _ _ hclause => hclause.symm

/-- The last clauses of a field have the same tokens. -/
theorem rel_lastValue?_of_sameTokens {e e' : String}
    (h : List.Forall₂ (SameTokens schema) (clauses e) (clauses e')) (field : String) :
    Option.Rel (fun raw raw' => ∀ token, token ∈ tokens schema field raw ↔
      token ∈ tokens schema field raw') (lastValue? e field) (lastValue? e' field) := by
  rw [lastValue?, lastValue?]
  apply lookup_of_forall₂ (R := fun field raw raw' => ∀ token,
    token ∈ tokens schema field raw ↔ token ∈ tokens schema field raw')
  rw [List.forall₂_reverse_iff, named, named, List.forall₂_map_left_iff, List.forall₂_map_right_iff]
  exact h.imp fun _ _ hclause => hclause.mem_tokens_iff

/-- A compiled filter holds of a document when the condition of the last clause of each field is
met. -/
theorem holds_iff_lastValue? {e : String} {p : Predicate} {filter : CompiledFilter} (he : e ≠ "")
    (hp : compile schema (some e) = .ok p) (hfilter : p.compile? = some filter) (d : Document) :
    filter.holds d = true ↔ ∀ field raw, lastValue? e field = some raw →
      ∃ declared compiled, schema.get? field = some declared ∧
        Converts field declared raw compiled ∧ compiled.HoldsAt d field := by
  rw [Predicate.holds_iff hfilter]
  constructor
  · intro h field raw hlast
    obtain ⟨declared, condition, compiled, hdeclared, hget, hcompile, hconverts⟩ :=
      exists_converts_of_lastValue? he hp hlast
    obtain ⟨compiled', hcompile', hd⟩ := h field condition hget
    obtain rfl : compiled = compiled' := Option.some.inj (hcompile.symm.trans hcompile')
    exact ⟨declared, compiled, hdeclared, hconverts, hd⟩
  · intro h field condition hget
    obtain ⟨raw, hlast⟩ := exists_lastValue?_of_get? he hp hget
    obtain ⟨declared, condition', compiled, hdeclared, hget', hcompile, hconverts⟩ :=
      exists_converts_of_lastValue? he hp hlast
    obtain rfl : condition = condition' := Option.some.inj (hget.symm.trans hget')
    obtain ⟨declared', compiled', hdeclared', hconverts', hd⟩ := h field raw hlast
    obtain rfl : declared = declared' := Option.some.inj (hdeclared.symm.trans hdeclared')
    exact ⟨compiled, hcompile, hconverts.unique hconverts' ▸ hd⟩

/-- A filter that holds of a document holds of it with the tokens in another order or number. -/
private theorem holds_of_sameTokens {e e' : String} {p p' : Predicate}
    {filter filter' : CompiledFilter} (he : e ≠ "") (he' : e' ≠ "")
    (h : List.Forall₂ (SameTokens schema) (clauses e) (clauses e'))
    (hp : compile schema (some e) = .ok p) (hp' : compile schema (some e') = .ok p')
    (hfilter : p.compile? = some filter) (hfilter' : p'.compile? = some filter') {d : Document}
    (hd : filter.holds d = true) : filter'.holds d = true := by
  rw [holds_iff_lastValue? he hp hfilter] at hd
  rw [holds_iff_lastValue? he' hp' hfilter']
  intro field raw' hlast'
  have hrel := rel_lastValue?_of_sameTokens h field
  rw [hlast'] at hrel
  cases hlast : lastValue? e field with
  | none => rw [hlast] at hrel; cases hrel
  | some raw =>
    rw [hlast] at hrel
    cases hrel with
    | some htokens =>
      obtain ⟨declared, compiled, hdeclared, hconverts, hholds⟩ := hd field raw hlast
      obtain ⟨declared', -, compiled', hdeclared', -, -, hconverts'⟩ :=
        exists_converts_of_lastValue? he' hp' hlast'
      obtain rfl : declared = declared' := Option.some.inj (hdeclared.symm.trans hdeclared')
      refine ⟨declared, compiled', hdeclared, hconverts', ?_⟩
      simp only [tokens, hdeclared] at htokens
      -- the condition of a value is that of its tokens
      rw [(holdsAt_iff_tokens hconverts').2 d]
      intro token htoken
      exact ((holdsAt_iff_tokens hconverts).2 d).1 hholds token ((htokens token).2 htoken)

/-- The expressions are empty together, for the empty clause is left as it is. -/
private theorem joined_eq_empty_of_sameTokens (h : List.Forall₂ (SameTokens schema) pieces pieces')
    (he : joined pieces = "") : pieces' = pieces := by
  rcases joined_eq_empty_iff.1 he with rfl | rfl
  · exact List.forall₂_nil_left_iff.1 h
  · cases h with
    | cons hclause hrest =>
      rw [List.forall₂_nil_left_iff.1 hrest]
      cases hclause with
      | same => rfl
      | array _ _ hne => exact absurd rfl hne

/-- With the tokens of its clauses in another order or number, a filter keeps being accepted. -/
private theorem exists_compile_of_sameTokens {e e' : String} (he : e ≠ "") (he' : e' ≠ "")
    (h : List.Forall₂ (SameTokens schema) (clauses e) (clauses e'))
    (haccepted : ∃ p, compile schema (some e) = .ok p) :
    ∃ p, compile schema (some e') = .ok p := by
  rw [exists_compile_iff he] at haccepted
  rw [exists_compile_iff he']
  intro clause' hclause'
  -- each clause stands beside one that is accepted
  obtain ⟨piece', hpiece', rfl⟩ := List.mem_map.1 hclause'
  obtain ⟨piece, hpiece, hsame⟩ := exists_of_forall₂_right h hpiece'
  exact hsame.accepted (haccepted _ (List.mem_map_of_mem hpiece))

/-- With the tokens of its clauses in another order or number, a filter keeps being accepted or
refused, and it keeps its meaning. -/
theorem matchAlike_of_sameTokens (h : List.Forall₂ (SameTokens schema) pieces pieces')
    (hcomma : ∀ piece ∈ pieces, ',' ∉ piece) :
    MatchAlike schema (joined pieces) (joined pieces') := by
  by_cases he : joined pieces = ""
  · rw [joined_eq_empty_of_sameTokens h he, he]
    exact .accepted ⟨.empty, rfl, rfl⟩ ⟨.empty, rfl, rfl⟩ fun _ => rfl
  · have he' : joined pieces' ≠ "" := by
      intro he'
      rw [joined_eq_empty_of_sameTokens (SameTokens.forall₂_symm h) he'] at he
      exact he he'
    have hcomma' : ∀ piece' ∈ pieces', ',' ∉ piece' := by
      intro piece' hpiece'
      obtain ⟨piece, hpiece, hsame⟩ := exists_of_forall₂_right h hpiece'
      exact hsame.comma_not_mem (hcomma piece hpiece)
    have hclauses : List.Forall₂ (SameTokens schema) (clauses (joined pieces))
        (clauses (joined pieces')) := by
      rwa [clauses_joined he hcomma, clauses_joined he' hcomma']
    have hclauses' := SameTokens.forall₂_symm hclauses
    rcases compile_cases ⟨exists_compile_of_sameTokens he he' hclauses,
      exists_compile_of_sameTokens he' he hclauses'⟩ with ⟨cause, cause', hp, hp'⟩ | ⟨p, p', hp, hp'⟩
    · exact .refused hp hp'
    · obtain ⟨filter, hfilter⟩ := exists_compile?_of_compile he hp
      obtain ⟨filter', hfilter'⟩ := exists_compile?_of_compile he' hp'
      refine .accepted ⟨p, hp, hfilter⟩ ⟨p', hp', hfilter'⟩ fun d => ?_
      rw [Bool.eq_iff_iff]
      constructor
      · exact holds_of_sameTokens he he' hclauses hp hp' hfilter hfilter'
      · exact holds_of_sameTokens he' he hclauses' hp' hp hfilter' hfilter

end Tokens

/-- Clauses of different fields compile alike in every order: both times they are refused, or both
times they make the same predicate with its fields in the same order. The tokens of array fields may
be put into another order or repeated without a change in what is accepted and what matches. -/
theorem order_does_not_matter (schema : Schema) (pieces pieces' : List (List Char))
    (hcomma : ∀ piece ∈ pieces, ',' ∉ piece) :
    (pieces.Perm pieces' → (pieces.map fun piece => (splitClause piece).1).Nodup →
      CompileAlike schema (joined pieces) (joined pieces')) ∧
    (List.Forall₂ (SameTokens schema) pieces pieces' →
      MatchAlike schema (joined pieces) (joined pieces')) :=
  ⟨fun hperm hfields => compileAlike_of_perm hperm hcomma hfields,
    fun h => matchAlike_of_sameTokens h hcomma⟩

/-- A year and two scores, and the same in another order. -/
theorem order_does_not_matter_sample :
    (∀ piece ∈ ["year:1979".toList, "scores:7|8".toList], ',' ∉ piece) ∧
    ["year:1979".toList, "scores:7|8".toList].Perm ["scores:7|8".toList, "year:1979".toList] ∧
    CompileAlike sampleSchema "year:1979,scores:7|8" "scores:7|8,year:1979" ∧
    List.Forall₂ (SameTokens sampleSchema) ["year:1979".toList, "scores:7|8".toList]
      ["year:1979".toList, "scores:8|7|8".toList] ∧
    MatchAlike sampleSchema "year:1979,scores:7|8" "year:1979,scores:8|7|8" := by
  have hcomma : ∀ piece ∈ ["year:1979".toList, "scores:7|8".toList], ',' ∉ piece := by decide
  have hperm := List.Perm.swap "scores:7|8".toList "year:1979".toList []
  have hcut : Text.CutAt '|' "7|8".toList [['7'], ['8']] := Text.cutAt_iff.2 rfl
  have hcut' : Text.CutAt '|' "8|7|8".toList [['8'], ['7'], ['8']] := Text.cutAt_iff.2 rfl
  have htokens : List.Forall₂ (SameTokens sampleSchema) ["year:1979".toList, "scores:7|8".toList]
      ["year:1979".toList, "scores:8|7|8".toList] :=
    .cons (.same _) (.cons (.array rfl (isClause_iff.2 rfl) (by decide) (isClause_iff.2 rfl)
      (by decide) hcut hcut' (by simp)) .nil)
  exact ⟨hcomma, hperm, (order_does_not_matter sampleSchema _ _ hcomma).1 hperm (by decide),
    htokens, (order_does_not_matter sampleSchema _ _ hcomma).2 htokens⟩

end Filter

end Catalog
