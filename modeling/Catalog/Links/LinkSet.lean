import Catalog.Json.Basic

/-!
# Link sets

Relations with the addresses that they lead to, in the order in which the relations first came.
Main statements: `get?_insert` and `get?_insertAbsent` say what each operation does to a look-up,
`relations_insert` and `relations_insertAbsent` what it does to the order.
-/

namespace Catalog

/-- Relations with their addresses; no relation stands twice. -/
structure LinkSet where
  /-- The links in order of insertion. -/
  links : List (String × String)
  /-- Relations do not repeat. -/
  nodup : (links.map (·.1)).Nodup
deriving DecidableEq

namespace LinkSet

/-- The set without links. -/
def empty : LinkSet := ⟨[], .nil⟩

instance : Inhabited LinkSet := ⟨empty⟩

/-- The relations in order. -/
def relations (s : LinkSet) : List String := s.links.map (·.1)

/-- The address of a relation. -/
def get? (s : LinkSet) (relation : String) : Option String :=
  s.links.lookup relation

/-- Whether a relation has an address. -/
def contains (s : LinkSet) (relation : String) : Bool :=
  s.links.any (·.1 == relation)

/-- The number of links. -/
def size (s : LinkSet) : Nat := s.links.length

/-- Whether there is no link. -/
def isEmpty (s : LinkSet) : Bool := s.links.isEmpty

/-- The links in order. -/
def toList (s : LinkSet) : List (String × String) := s.links

/-- Set the address of a relation in a list, in place if it is there and at the end if not. -/
def insertLink (relation href : String) : List (String × String) → List (String × String)
  | [] => [(relation, href)]
  | link :: rest =>
    if link.1 = relation then (relation, href) :: rest else link :: insertLink relation href rest

theorem map_fst_insertLink (relation href : String) (links : List (String × String)) :
    (insertLink relation href links).map (·.1) =
      if relation ∈ links.map (·.1) then links.map (·.1)
      else links.map (·.1) ++ [relation] := by
  induction links with
  | nil => simp [insertLink]
  | cons link rest ih =>
    by_cases h : link.1 = relation
    · simp [insertLink, h]
    · simp only [insertLink, h, if_false, List.map_cons, ih]
      have hne : relation ≠ link.1 := fun e => h e.symm
      by_cases hm : relation ∈ rest.map (·.1)
      · simp only [List.mem_cons, hm, or_true, if_true]
      · simp only [List.mem_cons, hm, hne, or_false, if_false, List.cons_append]

theorem lookup_insertLink (relation href : String) (links : List (String × String)) (r : String) :
    (insertLink relation href links).lookup r =
      if r = relation then some href else links.lookup r := by
  induction links with
  | nil =>
    by_cases h : r = relation
    · simp [insertLink, h]
    · have hb : (r == relation) = false := by simpa using h
      simp [insertLink, List.lookup_cons, hb, h]
  | cons link rest ih =>
    obtain ⟨r', href'⟩ := link
    by_cases h' : r' = relation
    · subst h'
      by_cases h : r = r'
      · simp [insertLink, h]
      · have hb : (r == r') = false := by simpa using h
        simp [insertLink, List.lookup_cons, hb, h]
    · simp only [insertLink, h', if_false, List.lookup_cons, ih]
      by_cases h : r = relation
      · subst h
        have hb : (r == r') = false := by simpa using fun e => h' e.symm
        simp [hb]
      · simp [h]

/-- Set the address of a relation. One that is there keeps its place. -/
def insert (s : LinkSet) (relation href : String) : LinkSet where
  links := insertLink relation href s.links
  nodup := by
    rw [map_fst_insertLink]
    split
    · exact s.nodup
    · next h =>
      exact List.nodup_append.2 ⟨s.nodup, by simp, fun a ha b hb => by
        simp only [List.mem_singleton] at hb
        rintro rfl
        exact h (hb ▸ ha)⟩

theorem contains_eq_true_iff (s : LinkSet) (relation : String) :
    s.contains relation = true ↔ relation ∈ s.relations := by
  simp [contains, relations]

/-- A relation is there exactly if it has an address. -/
theorem contains_eq_isSome_get? (s : LinkSet) (relation : String) :
    s.contains relation = (s.get? relation).isSome := by
  rw [contains, get?]
  induction s.links with
  | nil => rfl
  | cons link rest ih =>
    obtain ⟨r, href⟩ := link
    by_cases h : r = relation
    · simp [h]
    · have hb : (relation == r) = false := by simpa using fun e => h e.symm
      simp [List.lookup_cons, h, hb, ih]

/-- Add a relation, unless it is there. -/
def insertAbsent (s : LinkSet) (relation href : String) : LinkSet :=
  if s.contains relation then s else s.insert relation href

/-- Add a relation if it has an address. -/
def insertSome (s : LinkSet) (relation : String) : Option String → LinkSet
  | some href => s.insert relation href
  | none => s

/-- Setting an address changes that of its own relation and no other. -/
theorem get?_insert (s : LinkSet) (relation href r : String) :
    (s.insert relation href).get? r = if r = relation then some href else s.get? r :=
  lookup_insertLink relation href s.links r

/-- A new relation comes last, and one that is there keeps its place. -/
theorem relations_insert (s : LinkSet) (relation href : String) :
    (s.insert relation href).relations =
      if relation ∈ s.relations then s.relations else s.relations ++ [relation] :=
  map_fst_insertLink relation href s.links

/-- Adding a relation that is there changes nothing, and adding another one changes no other. -/
theorem get?_insertAbsent (s : LinkSet) (relation href r : String) :
    (s.insertAbsent relation href).get? r =
      (s.get? r).or (if r = relation then some href else none) := by
  unfold insertAbsent
  split
  · next h =>
    rw [contains_eq_isSome_get?] at h
    by_cases hr : r = relation
    · obtain ⟨there, hthere⟩ := Option.isSome_iff_exists.1 h
      simp [hr, hthere]
    · simp [hr]
  · next h =>
    rw [contains_eq_isSome_get?] at h
    rw [get?_insert]
    by_cases hr : r = relation
    · simp_all
    · simp [hr]

/-- A relation comes last, unless it is there. -/
theorem relations_insertAbsent (s : LinkSet) (relation href : String) :
    (s.insertAbsent relation href).relations =
      if relation ∈ s.relations then s.relations else s.relations ++ [relation] := by
  unfold insertAbsent
  by_cases h : relation ∈ s.relations
  · rw [if_pos ((contains_eq_true_iff s relation).2 h), if_pos h]
  · rw [if_neg (mt (contains_eq_true_iff s relation).1 h), relations_insert]

/-- The object that maps relations to addresses, in order. -/
def toJson (s : LinkSet) : Json :=
  .object (s.links.map fun link => (link.1, .string link.2))

end LinkSet

end Catalog
