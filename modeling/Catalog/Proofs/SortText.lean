import Catalog.Proofs.SortRuns
import Catalog.Proofs.Traversal
import Mathlib.Data.Set.Function

/-!
# Sort specifications as text

A specification is written with a clause for each key, and reading the text gives the same keys:
no clause of it is blank, and no field comes twice. The specifications that can be written are those
that some expression is read as, for both have distinct fields without commas and colons. A field
may be blank or empty, since its clause still holds a colon.

## Key results

- `SortSpec.writable_compile`: what is read can be written
- `SortSpec.compile_render`: what is written is read as it was
- `SortSpec.render_roundtrip`: both, and that no two specifications are written alike
-/

namespace Catalog

/-- Pieces are joined as in the core library. -/
theorem Text.joinWith_eq_intercalate (sep : Char) (pieces : List (List Char)) :
    joinWith sep pieces = [sep].intercalate pieces := by
  induction pieces with
  | nil => rfl
  | cons piece pieces ih =>
    cases pieces with
    | nil => simp [joinWith]
    | cons next rest =>
      rw [joinWith, ih, List.intercalate_cons_cons]
      · simp
      · exact List.cons_ne_nil next rest

theorem Direction.ofWord_word (direction : Direction) :
    ofWord direction.word.toList = direction := by
  cases direction <;> decide

theorem Direction.colon_not_mem_word (direction : Direction) :
    ':' ∉ direction.word.toList := by
  cases direction <;> decide

theorem Direction.comma_not_mem_word (direction : Direction) :
    ',' ∉ direction.word.toList := by
  cases direction <;> decide

namespace SortSpec

/-- A specification whose fields do not repeat and hold neither of the characters that expressions
are cut at. -/
structure Writable (spec : SortSpec) : Prop where
  nodup : (fields spec).Nodup
  comma_not_mem : ∀ key ∈ spec, ',' ∉ key.field.toList
  colon_not_mem : ∀ key ∈ spec, ':' ∉ key.field.toList

/-! ## What is read -/

section Key

variable {clause : List Char} {key : SortKey}

/-- The field of a clause is a part of it. -/
theorem IsKey.field_subset (h : IsKey clause key) : key.field.toList ⊆ clause := by
  cases h with
  | bare _ => exact List.Subset.refl _
  | word _ _ _ _ => exact List.subset_append_left _ _

theorem IsKey.colon_not_mem (h : IsKey clause key) : ':' ∉ key.field.toList := by
  cases h with
  | bare h => exact h
  | word h _ _ _ => exact h

end Key

/-- The field of a key of an expression holds none of the characters that the expression is cut
at. -/
theorem IsKeys.not_mem {e : String} {keys : List SortKey} (h : IsKeys e keys) {field : String}
    (hfield : field ∈ fields keys) : ',' ∉ field.toList ∧ ':' ∉ field.toList := by
  obtain ⟨pieces, hcut, hkeys⟩ := h
  obtain ⟨key, hkey, rfl⟩ := List.mem_map.1 hfield
  obtain ⟨clause, hclause, hiskey⟩ := exists_of_forall₂_right hkeys hkey
  have hcomma := hcut.not_mem clause (List.mem_of_mem_filter hclause)
  exact ⟨fun hmem => hcomma (hiskey.field_subset hmem), hiskey.colon_not_mem⟩

/-- An expression that is not empty is read by itself, without the default. -/
theorem compile_of_ne_empty {e : String} (h : e ≠ "") (default : SortSpec) :
    compile (some e) default = setAll (clauseKeys e.toList) [] := by
  have hempty : ¬ e.isEmpty = true := by rwa [String.isEmpty_iff]
  exact if_neg hempty

/-- What is read of an expression can be written. -/
theorem writable_compile (e : Option String) : Writable (compile e []) := by
  cases e with
  | none => exact ⟨.nil, nofun, nofun⟩
  | some text =>
    by_cases hempty : text = ""
    · subst hempty
      exact ⟨.nil, nofun, nofun⟩
    · rw [compile_of_ne_empty hempty]
      have hmerges := merges_setAll (clauseKeys text.toList)
      have hkeys : IsKeys text (clauseKeys text.toList) := isKeys_iff.2 rfl
      -- the fields are those of the clauses
      have hplain : ∀ key ∈ setAll (clauseKeys text.toList) [],
          ',' ∉ key.field.toList ∧ ':' ∉ key.field.toList := fun key hkey =>
        hkeys.not_mem ((hmerges.mem_fields key.field).1 (List.mem_map_of_mem hkey))
      exact ⟨hmerges.nodup, fun key hkey => (hplain key hkey).1,
        fun key hkey => (hplain key hkey).2⟩

/-! ## What is written -/

/-- The clause that a key is written as. -/
def clauseText (key : SortKey) : List Char :=
  key.field.toList ++ ':' :: key.direction.word.toList

theorem toList_render (spec : SortSpec) :
    (render spec).toList = Text.joinWith ',' (spec.map clauseText) := by
  rw [render, String.toList_intercalate, List.map_map, Text.joinWith_eq_intercalate]
  congr 1
  apply List.map_congr_left
  intro key _
  simp [clauseText]

theorem isKey_clauseText {key : SortKey} (h : ':' ∉ key.field.toList) :
    IsKey (clauseText key) key := by
  have hdirection : key.direction = .asc ↔ Direction.IsAscending key.direction.word.toList := by
    rw [← Direction.ofWord_eq_asc_iff, Direction.ofWord_word]
  have hkey := @IsKey.word key.field key.direction.word.toList [] key.direction h
    key.direction.colon_not_mem_word (by simp) hdirection
  rwa [List.append_nil] at hkey

/-- A clause with a colon is not blank. -/
theorem not_blank_clauseText (key : SortKey) : (clauseText key).all Text.isBlank = false := by
  rw [List.all_eq_false]
  exact ⟨':', by simp [clauseText], by decide⟩

/-- The keys of a written specification are its own. -/
theorem isKeys_render {spec : SortSpec} (hne : spec ≠ []) (h : Writable spec) :
    IsKeys (render spec) spec := by
  refine ⟨spec.map clauseText, ⟨?_, ?_, ?_⟩, ?_⟩
  · simpa using hne
  · intro piece hpiece
    obtain ⟨key, hkey, rfl⟩ := List.mem_map.1 hpiece
    simp [clauseText, h.comma_not_mem key hkey, key.direction.comma_not_mem_word]
  · exact (toList_render spec).symm
  · have hkept : ∀ piece ∈ spec.map clauseText, (!piece.all Text.isBlank) = true := by
      intro piece hpiece
      obtain ⟨key, -, rfl⟩ := List.mem_map.1 hpiece
      rw [not_blank_clauseText]
      rfl
    rw [List.filter_eq_self.2 hkept, List.forall₂_map_left_iff]
    exact List.forall₂_same.2 fun key hkey => isKey_clauseText (h.colon_not_mem key hkey)

/-- Keys with distinct fields are set one behind the other. -/
theorem setAll_of_nodup (keys spec : SortSpec) (h : (fields (spec ++ keys)).Nodup) :
    setAll keys spec = spec ++ keys := by
  induction keys generalizing spec with
  | nil => rw [List.append_nil]; rfl
  | cons key keys ih =>
    have hsplit : spec ++ key :: keys = (spec ++ [key]) ++ keys := by simp
    rw [hsplit] at h ⊢
    -- the field of the key is not among those that are there
    have hstep : (fields (spec ++ [key])).Nodup := by
      rw [fields, List.map_append] at h
      exact (List.nodup_append.1 h).1
    rw [fields_concat, List.nodup_append] at hstep
    have hnew : key.field ∉ fields spec := fun hmem =>
      hstep.2.2 key.field hmem key.field (List.mem_singleton_self _) rfl
    have hset : set key.field key.direction spec = spec ++ [key] := by
      rw [set_eq hstep.1, if_neg hnew]
    rw [← ih _ h, ← hset]
    rfl

/-- Reading what was written gives the specification back, whatever the default. -/
theorem compile_render {spec : SortSpec} (hne : spec ≠ []) (h : Writable spec)
    (default : SortSpec) : compile (some (render spec)) default = spec := by
  have hkeys := isKeys_iff.1 (isKeys_render hne h)
  have hempty : render spec ≠ "" := by
    intro hrender
    rw [hrender] at hkeys
    exact hne hkeys.symm
  rw [compile_of_ne_empty hempty, hkeys, setAll_of_nodup spec [] h.nodup, List.nil_append]

/-- The specifications that expressions are read as are those that can be written. -/
theorem exists_compile_eq_iff {spec : SortSpec} :
    (∃ e, compile e [] = spec) ↔ Writable spec := by
  constructor
  · rintro ⟨e, rfl⟩
    exact writable_compile e
  · intro h
    by_cases hne : spec = []
    · exact ⟨none, hne.symm⟩
    · exact ⟨some (render spec), compile_render hne h []⟩

/-- No two specifications are written alike, the empty one included. -/
theorem injOn_render : Set.InjOn render {spec | Writable spec} := by
  have hleft : Set.LeftInvOn (fun text => compile (some text) []) render
      {spec | Writable spec} := by
    intro spec h
    by_cases hne : spec = []
    · subst hne
      rfl
    · exact compile_render hne h []
  exact hleft.injOn

/-- The default has no part in reading an expression that has keys. -/
theorem compile_eq_of_ne_nil {e : String} (h : compile (some e) [] ≠ []) (default : SortSpec) :
    compile (some e) default = compile (some e) [] := by
  by_cases hempty : e = ""
  · subst hempty
    exact absurd rfl h
  · rw [compile_of_ne_empty hempty, compile_of_ne_empty hempty]

/-- Writing a specification and reading the text is the identity on all that expressions are read
as, so that these are never written alike, and what has been written and read once stays as it
is. -/
theorem render_roundtrip :
    (∀ spec : SortSpec, (∃ e, compile e [] = spec) ↔ Writable spec) ∧
    (∀ spec : SortSpec, spec ≠ [] → Writable spec → ∀ default,
      compile (some (render spec)) default = spec) ∧
    Set.InjOn render {spec | Writable spec} ∧
    ∀ e : String, compile (some e) [] ≠ [] → ∀ default default',
      compile (some (render (compile (some e) default))) default' =
        compile (some e) default := by
  refine ⟨fun _ => exists_compile_eq_iff, fun _ => compile_render, injOn_render, ?_⟩
  intro e he default default'
  rw [compile_eq_of_ne_nil he]
  exact compile_render he (writable_compile (some e)) default'

/-- An empty field and a blank one, read of an expression with a blank clause, a repeated field and
a second colon. -/
theorem render_roundtrip_sample :
    compile (some ":up,, :ASC:more,:desc") [] = [⟨"", .desc⟩, ⟨" ", .asc⟩] ∧
    Writable [⟨"", .desc⟩, ⟨" ", .asc⟩] ∧
    render [⟨"", .desc⟩, ⟨" ", .asc⟩] = ":desc, :asc" ∧
    compile (some ":desc, :asc") [⟨"year", .asc⟩] = [⟨"", .desc⟩, ⟨" ", .asc⟩] := by
  have hread : compile (some ":up,, :ASC:more,:desc") [] = [⟨"", .desc⟩, ⟨" ", .asc⟩] := by decide
  have htext : render [⟨"", .desc⟩, ⟨" ", .asc⟩] = ":desc, :asc" := by decide
  obtain ⟨hwritable, hback, -, -⟩ := render_roundtrip
  have hsample := (hwritable _).1 ⟨_, hread⟩
  refine ⟨hread, hsample, htext, ?_⟩
  rw [← htext]
  exact hback _ (List.cons_ne_nil _ _) hsample _

end SortSpec

end Catalog
