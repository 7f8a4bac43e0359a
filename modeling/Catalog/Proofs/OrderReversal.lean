import Catalog.Proofs.DocumentOrder

/-!
# Reversing the order of documents

Exchanging two documents reverses their comparison, and so does turning every direction round,
whatever values stand under the keys. The keys of a sort specification decide one after the other.

## Key results

- `SortSpec.compareDocuments_flip`: turning the directions round
- `SortSpec.compareDocuments_append`: the keys of two specifications, one after the other
- `SortSpec.compareDocuments_swap_flip_append`: all laws of the comparison
-/

namespace Catalog

theorem Direction.apply_flip (direction : Direction) (o : Ordering) :
    direction.flip.apply o = (direction.apply o).swap := by
  cases direction with
  | asc => rfl
  | desc => simp [Direction.flip, Direction.apply]

namespace SortSpec

/-- Turning the directions round reverses the comparison. -/
theorem compareDocuments_flip (sort : SortSpec) (a b : Document) :
    sort.flip.compareDocuments a b = (sort.compareDocuments a b).swap := by
  induction sort with
  | nil => rfl
  | cons key keys ih =>
    -- the first key reverses, and so do the keys behind it
    show (key.direction.flip.apply _).then (compareDocuments (flip keys) a b) = _
    rw [ih, Direction.apply_flip, compareDocuments, Ordering.swap_then]

/-- Later keys count where the earlier ones do not tell the documents apart. -/
theorem compareDocuments_append (sort later : SortSpec) (a b : Document) :
    (sort ++ later).compareDocuments a b =
      (sort.compareDocuments a b).then (later.compareDocuments a b) := by
  induction sort with
  | nil => simp [compareDocuments]
  | cons key keys ih => simp only [List.cons_append, compareDocuments, ih, Ordering.then_assoc]

/-- A document is level with itself: its comparison with itself is its own reverse. -/
theorem compareDocuments_self (sort : SortSpec) (a : Document) :
    sort.compareDocuments a a = .eq := by
  have hswap := compareDocuments_swap sort a a
  cases ho : sort.compareDocuments a a with
  | eq => rfl
  | lt => simp [ho] at hswap
  | gt => simp [ho] at hswap

/-- Exchanging documents and turning directions round both reverse the comparison, a document is
level with itself, and of two specifications one after the other the second decides where the first
finds the documents level. -/
theorem compareDocuments_swap_flip_append (sort later : SortSpec) (a b : Document) :
    sort.compareDocuments b a = (sort.compareDocuments a b).swap ∧
    sort.flip.compareDocuments a b = (sort.compareDocuments a b).swap ∧
    sort.compareDocuments a a = .eq ∧
    (sort ++ later).compareDocuments a b =
      (sort.compareDocuments a b).then (later.compareDocuments a b) :=
  ⟨compareDocuments_swap sort a b, compareDocuments_flip sort a b, compareDocuments_self sort a,
    compareDocuments_append sort later a b⟩

end SortSpec

end Catalog
