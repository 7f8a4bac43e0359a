import Catalog.Movie.Basic

/-!
# Documents of movies

What queries find in the document of a movie: under each name the field of the movie, with its inner
fields in order and null in the place of a double that is not finite.

## Key results

- `Json.lookup_canonicalFields`: fields in order are found as they were
- `Movie.lookup_document`: the values in the document of a movie
-/

namespace Catalog

namespace Json

/-- Fields of different names are found among the ones that they are put to in order. -/
theorem lookup_canonicalFields {fields : Fields} (h : (fields.map Prod.fst).Nodup) (acc : Fields)
    (key : String) : (canonicalFields acc fields).lookup key =
      ((fields.lookup key).map canonical).or (acc.lookup key) := by
  induction fields generalizing acc with
  | nil => rfl
  | cons field fields ih =>
    obtain ⟨name, value⟩ := field
    obtain ⟨hname, hfields⟩ := List.nodup_cons.1 h
    rw [canonicalFields, ih hfields, SortedMap.lookup_insertEntry, List.lookup_cons]
    by_cases hkey : key = name
    · -- the name does not come a second time
      have hnone : fields.lookup key = none := by
        rw [List.lookup_eq_none_iff]
        intro p hp
        rw [bne_iff_ne, hkey]
        intro heq
        exact hname (List.mem_map.2 ⟨p, hp, heq.symm⟩)
      rw [hnone, if_pos hkey, hkey, beq_self_eq_true]
      rfl
    · rw [if_neg hkey, beq_false_of_ne hkey]

theorem lookup_finiteFields (fields : Fields) (key : String) :
    (finiteFields fields).lookup key = (fields.lookup key).map finite := by
  induction fields with
  | nil => rfl
  | cons field fields ih =>
    obtain ⟨name, value⟩ := field
    simp only [finiteFields, List.lookup_cons, ih]
    split <;> rfl

theorem map_fst_finiteFields (fields : Fields) :
    (finiteFields fields).map Prod.fst = fields.map Prod.fst := by
  induction fields with
  | nil => rfl
  | cons field fields ih =>
    obtain ⟨name, value⟩ := field
    simp only [finiteFields, List.map_cons, ih]

end Json

namespace Movie

theorem nodup_names (m : Movie) : (m.fields.map Prod.fst).Nodup := by
  simp [fields]

/-- The document of a movie has the fields of the movie. -/
theorem lookup_document (m : Movie) (field : String) :
    m.document.lookup field = (m.fields.lookup field).map fun value => value.finite.canonical := by
  have hnodup : ((Json.finiteFields m.fields).map Prod.fst).Nodup := by
    rw [Json.map_fst_finiteFields]
    exact m.nodup_names
  rw [document, Json.lookup_canonicalFields hnodup, Json.lookup_finiteFields, Option.map_map,
    List.lookup_nil, Option.or_none]
  rfl

/-- A release date is stored as its timestamp. -/
theorem lookup_released (m : Movie) :
    m.document.lookup "released" = some (.string m.released.render) := by
  rw [lookup_document]
  rfl

end Movie

end Catalog
