import Catalog.Document

/-!
# Sorting by insertion

`stableSort` puts the elements of a list into another order: whatever the comparison says, none is
lost, added or doubled. Where the comparison is transitive, no element is less than one in front of
it, and level elements stay in the order in which they came; there is only one such list.

## Key results

- `perm_stableSort`: the sorted list is a permutation of the list
- `pairwise_stableSort`: it is in order, and level elements keep theirs
- `eq_of_perm_of_mayPrecede`: no other permutation is
-/

namespace Catalog

variable {α : Type}

/-- Inserting an element adds it and keeps the others. -/
theorem perm_insertDescending (less : α → α → Bool) (x : α) (ys : List α) :
    (insertDescending less x ys).Perm (x :: ys) := by
  induction ys with
  | nil => exact List.Perm.refl _
  | cons y ys ih =>
    by_cases h : less x y
    · -- `x` goes on to the rest, and `y` stays in front
      rw [insertDescending, if_pos h]
      have hfront : (y :: x :: ys).Perm (x :: y :: ys) := List.Perm.swap x y ys
      exact (List.Perm.cons y ih).trans hfront
    · rw [insertDescending, if_neg h]

/-- Inserting the elements of a list one by one adds all of them. -/
private theorem perm_foldl_insertDescending (less : α → α → Bool) (xs sorted : List α) :
    (xs.foldl (fun sorted x => insertDescending less x sorted) sorted).Perm (xs ++ sorted) := by
  induction xs generalizing sorted with
  | nil => exact List.Perm.refl _
  | cons x xs ih =>
    have hstep := (ih (insertDescending less x sorted)).trans
      ((perm_insertDescending less x sorted).append_left xs)
    exact hstep.trans List.perm_middle

/-- Sorting permutes. Nothing is asked of the comparison. -/
theorem perm_stableSort (less : α → α → Bool) (xs : List α) :
    (stableSort less xs).Perm xs := by
  have hfold := perm_foldl_insertDescending less xs []
  rw [List.append_nil] at hfold
  exact (List.reverse_perm _).trans hfold

/-! ## Order and ties -/

section Order

variable {cmp : α → α → Ordering} {came : α → α → Prop} {P : α → Prop}

/-- An element may stand in front of another: it is not greater, and if the two are level, it came
first. -/
def MayPrecede (cmp : α → α → Ordering) (came : α → α → Prop) (a b : α) : Prop :=
  cmp a b ≠ .gt ∧ (cmp a b = .eq → came a b)

/-- Inserting an element that came last keeps a list in order. The list is in descending order, so
that the element stops in front of those that are level with it. -/
private theorem pairwise_insertDescending (hswap : ∀ a b, cmp b a = (cmp a b).swap)
    (htrans : ∀ a b c, P a → P b → P c → cmp a b ≠ .gt → cmp b c ≠ .gt → cmp a c ≠ .gt)
    {x : α} (hx : P x) {sorted : List α} (hP : ∀ a ∈ sorted, P a)
    (hcame : ∀ a ∈ sorted, came a x)
    (hsorted : sorted.Pairwise fun a b => MayPrecede cmp came b a) :
    (insertDescending (fun a b => cmp a b == .lt) x sorted).Pairwise
      fun a b => MayPrecede cmp came b a := by
  induction sorted with
  | nil => simp [insertDescending]
  | cons y ys ih =>
    simp only [List.forall_mem_cons] at hP hcame
    obtain ⟨hy, hys⟩ := List.pairwise_cons.1 hsorted
    cases hxy : cmp x y with
    | lt =>
      -- `x` goes on, and it may stand in front of `y`
      have hmay : MayPrecede cmp came x y := by simp [MayPrecede, hxy]
      rw [insertDescending, if_pos (by simp [hxy]), List.pairwise_cons]
      refine ⟨fun z hz => ?_, ih hP.2 hcame.2 hys⟩
      rcases List.mem_cons.1 ((perm_insertDescending _ x ys).mem_iff.1 hz) with rfl | hz
      · exact hmay
      · exact hy z hz
    | eq | gt =>
      have hyx : cmp y x ≠ .gt := by simp [hswap x y, hxy]
      rw [insertDescending, if_neg (by simp [hxy]), List.pairwise_cons]
      refine ⟨fun z hz => ⟨?_, fun _ => ?_⟩, hsorted⟩
      · rcases List.mem_cons.1 hz with rfl | hz
        · exact hyx
        · -- what is not greater than `y` is not greater than `x`
          exact htrans z y x (hP.2 z hz) hP.1 hx (hy z hz).1 hyx
      · rcases List.mem_cons.1 hz with rfl | hz
        · exact hcame.1
        · exact hcame.2 z hz

/-- Sorting puts a list into order, and level elements keep the order in which they came, if the
comparison is transitive on the elements of the list. -/
theorem pairwise_stableSort (hswap : ∀ a b, cmp b a = (cmp a b).swap)
    (htrans : ∀ a b c, P a → P b → P c → cmp a b ≠ .gt → cmp b c ≠ .gt → cmp a c ≠ .gt)
    {xs : List α} (hP : ∀ a ∈ xs, P a) (hcame : xs.Pairwise came) :
    (stableSort (fun a b => cmp a b == .lt) xs).Pairwise (MayPrecede cmp came) := by
  rw [stableSort, List.pairwise_reverse]
  -- the elements that are inserted came before those that are still to be
  suffices hfold : ∀ sorted : List α, (∀ a ∈ sorted, P a) → (∀ a ∈ sorted, ∀ x ∈ xs, came a x) →
      sorted.Pairwise (fun a b => MayPrecede cmp came b a) →
      (xs.foldl (fun sorted x => insertDescending (fun a b => cmp a b == .lt) x sorted)
        sorted).Pairwise fun a b => MayPrecede cmp came b a by
    apply hfold <;> simp
  induction xs with
  | nil => exact fun sorted _ _ hsorted => hsorted
  | cons x xs ih =>
    intro sorted hPsorted hbefore hsorted
    simp only [List.forall_mem_cons] at hP hbefore
    obtain ⟨hx, hxs⟩ := List.pairwise_cons.1 hcame
    have hmem : ∀ a, a ∈ insertDescending (fun a b => cmp a b == .lt) x sorted ↔
        a = x ∨ a ∈ sorted := by
      intro a
      rw [(perm_insertDescending _ x sorted).mem_iff, List.mem_cons]
    apply ih hP.2 hxs
    · intro a ha
      rcases (hmem a).1 ha with rfl | ha
      · exact hP.1
      · exact hPsorted a ha
    · intro a ha y hy
      rcases (hmem a).1 ha with rfl | ha
      · exact hx y hy
      · exact (hbefore a ha).2 y hy
    · exact pairwise_insertDescending hswap htrans hP.1 hPsorted (fun a ha => (hbefore a ha).1)
        hsorted

/-- Two lists of the same elements that are both in order are one. -/
theorem eq_of_perm_of_mayPrecede (hswap : ∀ a b, cmp b a = (cmp a b).swap)
    (hasymm : ∀ a b, came a b → ¬ came b a) {xs ys : List α} (h : xs.Perm ys)
    (hxs : xs.Pairwise (MayPrecede cmp came)) (hys : ys.Pairwise (MayPrecede cmp came)) :
    xs = ys := by
  refine List.Perm.eq_of_pairwise ?_ hxs hys h
  intro a b _ _ hab hba
  -- neither is greater, so they are level, and then each came before the other
  have hlevel : cmp a b = .eq ∧ cmp b a = .eq := by
    have hba' := hba.1
    rw [hswap a b] at hba' ⊢
    cases hc : cmp a b with
    | eq => simp
    | lt => simp [hc] at hba'
    | gt => exact absurd hc hab.1
  exact absurd (hba.2 hlevel.2) (hasymm a b (hab.2 hlevel.1))

end Order

end Catalog
