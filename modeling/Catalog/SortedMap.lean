/-!
# Maps kept in key order

A finite map from names to values that lists its entries in strictly increasing order of names,
which is the byte order of their UTF-8 form. Main statements: `get?_insert` and `sorted`.
-/

namespace Catalog

/-- A finite map listed in strictly increasing order of its keys. -/
structure SortedMap (α : Type) where
  /-- The entries, in key order. -/
  entries : List (String × α)
  /-- Keys increase strictly, hence do not repeat. -/
  sorted : entries.Pairwise (fun a b => a.1 < b.1)

namespace SortedMap

variable {α β : Type}

/-- Put an entry into its place in an ordered list, replacing one of the same key. -/
def insertEntry (key : String) (value : α) : List (String × α) → List (String × α)
  | [] => [(key, value)]
  | entry :: rest =>
    if key < entry.1 then (key, value) :: entry :: rest
    else if key = entry.1 then (key, value) :: rest
    else entry :: insertEntry key value rest

/-- A key of the new list is the inserted key or a key of the old list. -/
theorem mem_insertEntry {key : String} {value : α} {entries : List (String × α)}
    {entry : String × α} (h : entry ∈ insertEntry key value entries) :
    entry = (key, value) ∨ entry ∈ entries := by
  induction entries with
  | nil => simpa [insertEntry] using h
  | cons e rest ih =>
    unfold insertEntry at h
    split at h
    · simpa using h
    · split at h
      · simp only [List.mem_cons] at h ⊢
        rcases h with h | h <;> simp [h]
      · simp only [List.mem_cons] at h ⊢
        rcases h with h | h
        · simp [h]
        · rcases ih h with h | h <;> simp [h]

theorem pairwise_insertEntry (key : String) (value : α) {entries : List (String × α)}
    (h : entries.Pairwise (fun a b => a.1 < b.1)) :
    (insertEntry key value entries).Pairwise (fun a b => a.1 < b.1) := by
  induction entries with
  | nil => simp [insertEntry]
  | cons e rest ih =>
    have ⟨he, hr⟩ := List.pairwise_cons.1 h
    unfold insertEntry
    split
    · next hlt =>
      refine List.pairwise_cons.2 ⟨fun x hx => ?_, h⟩
      rcases List.mem_cons.1 hx with rfl | hx
      · exact hlt
      · exact String.lt_trans hlt (he x hx)
    · split
      · next heq =>
        exact List.pairwise_cons.2 ⟨fun x hx => heq ▸ he x hx, hr⟩
      · next hlt hne =>
        refine List.pairwise_cons.2 ⟨fun x hx => ?_, ih hr⟩
        rcases mem_insertEntry hx with rfl | hx
        · exact Std.lt_of_le_of_ne (String.not_lt.1 hlt) (Ne.symm hne)
        · exact he x hx

/-- The map without entries. -/
def empty : SortedMap α := ⟨[], .nil⟩

instance : Inhabited (SortedMap α) := ⟨empty⟩

instance : EmptyCollection (SortedMap α) := ⟨empty⟩

/-- Add an entry; one of the same key is replaced. -/
def insert (m : SortedMap α) (key : String) (value : α) : SortedMap α :=
  ⟨insertEntry key value m.entries, pairwise_insertEntry key value m.sorted⟩

/-- The value of a key. -/
def get? (m : SortedMap α) (key : String) : Option α :=
  m.entries.lookup key

/-- Whether a key has a value. -/
def contains (m : SortedMap α) (key : String) : Bool :=
  (m.get? key).isSome

/-- The number of entries. -/
def size (m : SortedMap α) : Nat := m.entries.length

/-- Whether there is no entry. -/
def isEmpty (m : SortedMap α) : Bool := m.entries.isEmpty

/-- The entries in key order. -/
def toList (m : SortedMap α) : List (String × α) := m.entries

/-- The keys in order. -/
def keys (m : SortedMap α) : List String := m.entries.map (·.1)

/-- Add entries one by one; the last value of a key stays. -/
def ofList (entries : List (String × α)) : SortedMap α :=
  entries.foldl (fun m e => m.insert e.1 e.2) empty

theorem lookup_insertEntry (key : String) (value : α) (entries : List (String × α)) (k : String) :
    (insertEntry key value entries).lookup k = if k = key then some value else entries.lookup k := by
  induction entries with
  | nil =>
    by_cases h : k = key
    · simp [insertEntry, h]
    · have hb : (k == key) = false := by simpa using h
      simp [insertEntry, List.lookup_cons, hb, h]
  | cons e rest ih =>
    obtain ⟨k', v'⟩ := e
    by_cases h : k = key
    · subst h
      unfold insertEntry
      split
      · simp
      · split
        · simp
        · next hne =>
          have hb : (k == k') = false := by simpa using hne
          simp [List.lookup_cons, hb, ih]
    · have hb : (k == key) = false := by simpa using h
      unfold insertEntry
      split
      · simp [List.lookup_cons, hb]
      · split
        · next heq =>
          subst heq
          simp [List.lookup_cons, hb]
        · simp [List.lookup_cons, ih, h]

/-- Reading after writing. -/
theorem get?_insert (m : SortedMap α) (key : String) (value : α) (k : String) :
    (m.insert key value).get? k = if k = key then some value else m.get? k :=
  lookup_insertEntry key value m.entries k

end SortedMap

end Catalog
