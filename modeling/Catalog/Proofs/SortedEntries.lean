import Catalog.SortedMap

/-!
# Entries of maps in key order

A map holds one entry for each of its keys, so that its entries are its look-ups, and two maps with
the same look-ups are one. A map built from a list answers with the last entry of a key.
-/

namespace Catalog.SortedMap

variable {α : Type}

/-- Entry by entry, a list of entries with distinct keys is its look-ups. -/
theorem lookup_eq_some_iff_mem {entries : List (String × α)} (h : (entries.map Prod.fst).Nodup)
    (key : String) (value : α) : entries.lookup key = some value ↔ (key, value) ∈ entries := by
  induction entries with
  | nil => simp
  | cons e rest ih =>
    obtain ⟨k, v⟩ := e
    obtain ⟨hk, hrest⟩ := List.nodup_cons.1 h
    rw [List.mem_cons, List.lookup_cons, Prod.mk.injEq]
    by_cases hkey : key = k
    · subst hkey
      -- the key does not come a second time
      have hnot : (key, value) ∉ rest := fun hm => hk (List.mem_map.2 ⟨_, hm, rfl⟩)
      simp [hnot, eq_comm]
    · simp [beq_false_of_ne hkey, hkey, ih hrest]

/-- The order of entries with distinct keys plays no part in look-ups. -/
theorem lookup_eq_of_perm {entries entries' : List (String × α)} (hperm : entries.Perm entries')
    (h : (entries.map Prod.fst).Nodup) (key : String) :
    entries.lookup key = entries'.lookup key := by
  have h' : (entries'.map Prod.fst).Nodup := (hperm.map Prod.fst).nodup_iff.1 h
  apply Option.ext
  intro value
  rw [lookup_eq_some_iff_mem h, lookup_eq_some_iff_mem h', hperm.mem_iff]

/-- In key order, keys do not repeat. -/
private theorem nodup_of_pairwise {entries : List (String × α)}
    (h : entries.Pairwise fun a b => a.1 < b.1) : (entries.map Prod.fst).Nodup := by
  rw [List.Nodup, List.pairwise_map]
  refine h.imp fun hlt heq => ?_
  rw [heq] at hlt
  exact String.lt_irrefl _ hlt

/-- The keys of a map do not repeat. -/
theorem nodup_keys (m : SortedMap α) : (m.toList.map Prod.fst).Nodup :=
  nodup_of_pairwise m.sorted

/-- Entry by entry, a list in key order is its look-ups. -/
private theorem mem_iff_lookup {entries : List (String × α)}
    (h : entries.Pairwise fun a b => a.1 < b.1) (key : String) (value : α) :
    (key, value) ∈ entries ↔ entries.lookup key = some value :=
  (lookup_eq_some_iff_mem (nodup_of_pairwise h) key value).symm

/-- The entries of a map are its look-ups. -/
theorem mem_toList_iff (m : SortedMap α) (key : String) (value : α) :
    (key, value) ∈ m.toList ↔ m.get? key = some value :=
  mem_iff_lookup m.sorted key value

/-- Maps with the same look-ups are equal. -/
theorem ext_get? {m n : SortedMap α} (h : ∀ key, m.get? key = n.get? key) : m = n := by
  -- the same entries in the same order
  have hperm : m.entries.Perm n.entries := by
    have nodup : ∀ {es : List (String × α)}, es.Pairwise (fun a b => a.1 < b.1) → es.Nodup :=
      fun hes => List.Pairwise.of_map Prod.fst (fun _ _ hne heq => hne (congrArg Prod.fst heq))
        (nodup_of_pairwise hes)
    rw [List.perm_ext_iff_of_nodup (nodup m.sorted) (nodup n.sorted)]
    rintro ⟨key, value⟩
    have hkey : m.entries.lookup key = n.entries.lookup key := h key
    rw [mem_iff_lookup m.sorted, mem_iff_lookup n.sorted, hkey]
  have hentries : m.entries = n.entries := by
    refine hperm.eq_of_pairwise ?_ m.sorted n.sorted
    intro a b _ _ hab hba
    exact absurd (String.lt_trans hab hba) (String.lt_irrefl a.1)
  cases m
  cases n
  cases hentries
  rfl

/-- The empty map answers nothing. -/
theorem get?_empty (key : String) : (empty : SortedMap α).get? key = none := rfl

/-- A map that entries are added to answers with the last of them, or as before. -/
theorem get?_foldl_insert (entries : List (String × α)) (m : SortedMap α) (key : String) :
    (entries.foldl (fun m e => m.insert e.1 e.2) m).get? key =
      (entries.reverse.lookup key).or (m.get? key) := by
  -- the fold from the left is one from the right over the reversed list
  rw [← List.foldr_reverse]
  induction entries.reverse with
  | nil => rfl
  | cons e rest ih =>
    obtain ⟨k, v⟩ := e
    rw [List.foldr_cons, get?_insert, List.lookup_cons]
    by_cases hk : key = k
    · rw [if_pos hk, hk, beq_self_eq_true]
      rfl
    · rw [if_neg hk, beq_false_of_ne hk]
      exact ih

/-- A map built from a list answers with the last entry of a key. -/
theorem get?_ofList (entries : List (String × α)) (key : String) :
    (ofList entries).get? key = entries.reverse.lookup key := by
  rw [ofList, get?_foldl_insert, get?_empty, Option.or_none]

/-- The last entry of a key is the one behind which the key does not come again. -/
theorem lookup_reverse_eq_some_iff {entries : List (String × α)} {key : String} {value : α} :
    entries.reverse.lookup key = some value ↔
      ∃ before after, entries = before ++ (key, value) :: after ∧ key ∉ after.map Prod.fst := by
  rw [List.lookup_eq_some_iff]
  constructor
  · intro h
    obtain ⟨front, back, hsplit, hfront⟩ := h
    refine ⟨back.reverse, front.reverse, ?_, ?_⟩
    · rw [← List.reverse_reverse entries, hsplit]
      simp
    · intro hmem
      obtain ⟨e, he, rfl⟩ := List.mem_map.1 hmem
      simpa using hfront e (List.mem_reverse.1 he)
  · intro h
    obtain ⟨before, after, rfl, hafter⟩ := h
    refine ⟨after.reverse, before.reverse, by simp, fun e he => ?_⟩
    rw [List.mem_reverse] at he
    have hne : key ≠ e.1 := fun heq => hafter (heq ▸ List.mem_map_of_mem he)
    simpa using hne

/-- A key has no entry when it is none of the keys. -/
theorem lookup_reverse_eq_none_iff {entries : List (String × α)} {key : String} :
    entries.reverse.lookup key = none ↔ key ∉ entries.map Prod.fst := by
  rw [List.lookup_eq_none_iff]
  constructor
  · intro h hmem
    obtain ⟨e, he, rfl⟩ := List.mem_map.1 hmem
    simpa using h e (List.mem_reverse.2 he)
  · intro h e he
    have hne : key ≠ e.1 := fun heq => h (heq ▸ List.mem_map_of_mem (List.mem_reverse.1 he))
    simpa using hne

/-- In key order, the last entry of a key is its only one. -/
theorem lookup_reverse_of_pairwise {entries : List (String × α)}
    (h : entries.Pairwise fun a b => a.1 < b.1) (key : String) :
    entries.reverse.lookup key = entries.lookup key := by
  apply Option.ext
  intro value
  rw [← mem_iff_lookup h, lookup_reverse_eq_some_iff]
  constructor
  · intro hsplit
    obtain ⟨before, after, rfl, -⟩ := hsplit
    exact List.mem_append_right before List.mem_cons_self
  · intro hmem
    obtain ⟨before, after, rfl⟩ := List.append_of_mem hmem
    refine ⟨before, after, rfl, fun hkey => ?_⟩
    obtain ⟨e, he, heq⟩ := List.mem_map.1 hkey
    rw [List.pairwise_append, List.pairwise_cons] at h
    have hlt := h.2.1.1 e he
    rw [heq] at hlt
    exact String.lt_irrefl key hlt

/-- The keys of a map are those with a look-up. -/
theorem mem_keys_iff (m : SortedMap α) (key : String) :
    key ∈ m.keys ↔ ∃ value, m.get? key = some value := by
  simp only [← mem_toList_iff, keys, toList, List.mem_map, Prod.exists, exists_and_right,
    exists_eq_right]

end Catalog.SortedMap
