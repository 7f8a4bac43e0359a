import Catalog.Proofs.EnvelopeText
import Catalog.Proofs.SortedEntries
import Mathlib.Data.Finset.Card

/-!
# Runs of operations on links

Sets of links are built by two operations: one replaces the address of a relation that is there, the
other leaves it alone. After any run of both, the relations stand in the order in which they first
came, each of them once and with the address that the run leaves it, and this is what the JSON text
of the set says.

## Key results

- `LinkSet.getElem?_apply_of_ne`: an operation does not touch the links of other relations
- `LinkSet.relations_run`, `LinkSet.get?_run`: the order and the addresses that a run leaves behind
- `LinkSet.insertion_ordered`: both together with the other reads of the set
-/

namespace Catalog

namespace LinkSet

/-! ## Operations -/

/-- An operation on a set of links. -/
inductive Operation where
  /-- Set the address of a relation. -/
  | insert (relation href : String)
  /-- Add a relation, unless it is there. -/
  | insertAbsent (relation href : String)

namespace Operation

/-- The relation that an operation is about. -/
def relation : Operation → String
  | insert relation _ => relation
  | insertAbsent relation _ => relation

/-- The address that it brings. -/
def href : Operation → String
  | insert _ href => href
  | insertAbsent _ href => href

/-- Whether it replaces an address that is there. -/
def replaces : Operation → Bool
  | insert .. => true
  | insertAbsent .. => false

/-- What it makes of a set of links. -/
def apply (s : LinkSet) : Operation → LinkSet
  | insert relation href => s.insert relation href
  | insertAbsent relation href => s.insertAbsent relation href

end Operation

/-- The set that operations lead to from the empty one. -/
def run (ops : List Operation) : LinkSet :=
  ops.foldl Operation.apply empty

theorem run_append (ops : List Operation) (op : Operation) :
    run (ops ++ [op]) = op.apply (run ops) := by
  simp [run]

/-! ## One operation -/

section Step

variable (s : LinkSet) (op : Operation)

/-- A new relation comes last, and one that is there keeps its place. -/
theorem relations_apply : (op.apply s).relations =
    if op.relation ∈ s.relations then s.relations else s.relations ++ [op.relation] := by
  cases op with
  | insert relation href => exact s.relations_insert relation href
  | insertAbsent relation href => exact s.relations_insertAbsent relation href

/-- The relation gets the new address, unless it has one that is not replaced. -/
theorem get?_apply (r : String) : (op.apply s).get? r =
    if r = op.relation then
      if op.replaces then some op.href else (s.get? r).or (some op.href)
    else s.get? r := by
  cases op with
  | insert relation href => exact s.get?_insert relation href r
  | insertAbsent relation href =>
    show (s.insertAbsent relation href).get? r = _
    rw [get?_insertAbsent]
    by_cases h : r = relation <;> simp [h, Operation.relation, Operation.replaces, Operation.href]

theorem getElem?_insertLink_of_ne {relation r : String} (h : r ≠ relation) (href href' : String)
    (links : List (String × String)) (i : Nat) :
    (insertLink relation href links)[i]? = some (r, href') ↔ links[i]? = some (r, href') := by
  induction links generalizing i with
  | nil => cases i <;> simp [insertLink, h.symm]
  | cons link rest ih =>
    by_cases hlink : link.1 = relation
    · -- both links in front are about the relation that is set
      have hfront : link ≠ (r, href') := by
        rintro rfl
        exact h hlink
      cases i <;> simp [insertLink, hlink, h.symm, hfront]
    · cases i with
      | zero => simp [insertLink, hlink]
      | succ i => simp [insertLink, hlink, ih]

/-- A link of another relation stands where it stood, with its address. -/
theorem getElem?_apply_of_ne {r : String} (h : r ≠ op.relation) (href : String) (i : Nat) :
    (op.apply s).toList[i]? = some (r, href) ↔ s.toList[i]? = some (r, href) := by
  have hinsert : (s.insert op.relation op.href).toList[i]? = some (r, href) ↔
      s.toList[i]? = some (r, href) := getElem?_insertLink_of_ne h op.href href s.links i
  cases op with
  | insert => exact hinsert
  | insertAbsent relation href' =>
    show (s.insertAbsent relation href').toList[i]? = _ ↔ _
    rw [insertAbsent]
    split
    · rfl
    · exact hinsert

end Step

/-! ## Runs -/

/-- The address that operations leave a relation: that of the last one that replaces, and without
such a one the address that the relation came with. -/
def settled? (ops : List Operation) (relation : String) : Option String :=
  ((ops.reverse.find? fun op => op.replaces && op.relation == relation).or
    (ops.find? fun op => op.relation == relation)).map Operation.href

theorem settled?_append (ops : List Operation) (op : Operation) (r : String) :
    settled? (ops ++ [op]) r =
      if r = op.relation then
        if op.replaces then some op.href else (settled? ops r).or (some op.href)
      else settled? ops r := by
  unfold settled?
  rw [List.reverse_append, List.reverse_singleton, List.singleton_append, List.find?_cons,
    List.find?_append]
  by_cases hr : r = op.relation
  · cases hreplaces : op.replaces with
    | true => simp [hr]
    | false => cases List.find? _ ops.reverse <;> cases List.find? _ ops <;> simp [hr]
  · have hb : (op.relation == r) = false := by simpa using Ne.symm hr
    simp [hb, hr]

/-- One more item is kept if it has not come before. -/
theorem eraseDups_append_singleton (xs : List String) (x : String) :
    (xs ++ [x]).eraseDups = if x ∈ xs then xs.eraseDups else xs.eraseDups ++ [x] := by
  rw [List.eraseDups_append, List.removeAll]
  by_cases h : x ∈ xs <;> simp [h, List.eraseDups_cons]

/-- The relations of a run are those of its operations, in the order in which they first came. -/
theorem relations_run (ops : List Operation) :
    (run ops).relations = (ops.map Operation.relation).eraseDups := by
  -- a run grows at its end, and there the list of first occurrences grows too
  induction ops using List.reverseRecOn with
  | nil => rfl
  | append_singleton ops op ih =>
    have hmem : op.relation ∈ (run ops).relations ↔ op.relation ∈ ops.map Operation.relation := by
      rw [ih, List.mem_eraseDups]
    rw [run_append, relations_apply, List.map_append, List.map_singleton,
      eraseDups_append_singleton, if_congr hmem rfl rfl, ih]

/-- Every relation has the address that the run leaves it. -/
theorem get?_run (ops : List Operation) (r : String) : (run ops).get? r = settled? ops r := by
  induction ops using List.reverseRecOn with
  | nil => rfl
  | append_singleton ops op ih => rw [run_append, get?_apply, settled?_append, ih]

/-- The set of links follows a run of operations, and all its reads agree on that. -/
structure Follows (s : LinkSet) (ops : List Operation) : Prop where
  /-- Relations do not repeat. -/
  nodup : s.relations.Nodup
  /-- They stand in the order in which they first came. -/
  relations : s.relations = (ops.map Operation.relation).eraseDups
  /-- There are as many links as relations came. -/
  size : s.size = (ops.map Operation.relation).toFinset.card
  /-- Each of them has the address that the run leaves it, and no other relation has one. -/
  get? : ∀ r, s.get? r = settled? ops r
  /-- A relation is there exactly if it has an address. -/
  contains : ∀ r, s.contains r = (s.get? r).isSome
  /-- The links are the relations with their addresses. -/
  mem_toList : ∀ r href, (r, href) ∈ s.toList ↔ s.get? r = some href
  /-- The JSON text reads as an object of just these links, in this order. -/
  text : Json.parse? s.toJson.render =
    some (.object (s.toList.map fun link => (link.1, .string link.2)))

/-- What one more operation leaves alone. -/
structure Keeps (s : LinkSet) (op : Operation) (s' : LinkSet) : Prop where
  /-- The links of all other relations, with their places. -/
  others : ∀ (i : Nat) (r href : String), r ≠ op.relation →
    (s'.toList[i]? = some (r, href) ↔ s.toList[i]? = some (r, href))
  /-- Everything, if the relation is there and the operation does not replace. -/
  present : op.replaces = false → s.contains op.relation = true → s' = s

theorem follows_run (ops : List Operation) : Follows (run ops) ops where
  nodup := (run ops).nodup
  relations := relations_run ops
  size := by
    have hset : (run ops).relations.toFinset = (ops.map Operation.relation).toFinset := by
      ext r
      simp [relations_run]
    have hnodup : (run ops).relations.Nodup := (run ops).nodup
    rw [← hset, List.toFinset_card_of_nodup hnodup, relations, List.length_map, size]
  get? := get?_run ops
  contains := contains_eq_isSome_get? (run ops)
  mem_toList r href := (SortedMap.lookup_eq_some_iff_mem (run ops).nodup r href).symm
  text := by
    rw [Json.parse?_render ((run ops).fits_toJson (by decide)), finite_toJson]
    rfl

theorem keeps_apply (s : LinkSet) (op : Operation) : Keeps s op (op.apply s) where
  others i r href h := getElem?_apply_of_ne s op h href i
  present hreplaces hpresent := by
    cases op with
    | insert => cases hreplaces
    | insertAbsent relation href => exact if_pos hpresent

/-- A set of links is a map in the order of insertion, at every moment of every run: it follows the
operations so far, and one more leaves alone what it is not about. -/
theorem insertion_ordered (ops : List Operation) :
    Follows (run ops) ops ∧ ∀ op, Keeps (run ops) op (run (ops ++ [op])) := by
  refine ⟨follows_run ops, fun op => ?_⟩
  rw [run_append]
  exact keeps_apply (run ops) op

example : (run [.insert "self" "/a", .insertAbsent "up" "/", .insertAbsent "self" "/b",
    .insert "self" "/c", .insertAbsent "up" "/d"]).toList = [("self", "/c"), ("up", "/")] := by
  decide

end LinkSet

end Catalog
