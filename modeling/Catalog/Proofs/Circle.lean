/-!
# Circles of a comparison

A comparison that is not transitive leads in a circle: from `a` over `b` and `c` back to `a` without
a step down. What is known of a comparison by keys follows from what is known of each key.

## Key results

- `not_circle_of_transCmp`: a transitive comparison has no circle
- `Circle.of_then`: a circle of a comparison by two keys is one of the first key, or one of the
  second among elements that the first does not tell apart
- `Circle.of_ne_trans`: where transitivity fails there is a circle
-/

namespace Catalog

/-- From `a` over `b` and `c` back to `a` no step leads down, and not all steps are level. -/
structure Circle {α : Type} (cmp : α → α → Ordering) (a b c : α) : Prop where
  /-- The step from `a` to `b`. -/
  first : cmp a b ≠ .gt
  /-- The step from `b` to `c`. -/
  second : cmp b c ≠ .gt
  /-- The step back to `a`. -/
  back : cmp c a ≠ .gt
  /-- Some step leads up. -/
  uneven : ¬ (cmp a b = .eq ∧ cmp b c = .eq ∧ cmp c a = .eq)

/-- A relation of three holds from one of them on. -/
def Around {α : Type} (r : α → α → α → Prop) (a b c : α) : Prop :=
  r a b c ∨ r b c a ∨ r c a b

section

variable {α : Type} {cmp : α → α → Ordering} {a b c : α}

theorem Around.imp {β : Type} {r : α → α → α → Prop} {q : β → β → β → Prop} {x y z : β}
    (h : Around r a b c) (h₁ : r a b c → q x y z) (h₂ : r b c a → q y z x)
    (h₃ : r c a b → q z x y) : Around q x y z :=
  Or.imp h₁ (Or.imp h₂ h₃) h

theorem Circle.rotate (h : Circle cmp a b c) : Circle cmp b c a :=
  ⟨h.second, h.back, h.first, fun level => h.uneven ⟨level.2.2, level.1, level.2.1⟩⟩

/-- A transitive comparison has no circles: one would make its elements equal. -/
theorem not_circle_of_transCmp (cmp : α → α → Ordering) [Std.TransCmp cmp] (a b c : α) :
    ¬ Circle cmp a b c := by
  intro h
  have hab := Ordering.isLE_iff_ne_gt.2 h.first
  have hbc := Ordering.isLE_iff_ne_gt.2 h.second
  have hca := Ordering.isLE_iff_ne_gt.2 h.back
  refine h.uneven ⟨?_, ?_, ?_⟩
  · exact Std.OrientedCmp.isLE_antisymm hab (Std.TransCmp.isLE_trans hbc hca)
  · exact Std.OrientedCmp.isLE_antisymm hbc (Std.TransCmp.isLE_trans hca hab)
  · exact Std.OrientedCmp.isLE_antisymm hca (Std.TransCmp.isLE_trans hab hbc)

/-- A circle of a comparison by two keys is a circle of the first, or the first is level and the
second has a circle. -/
theorem Circle.of_then (cmp cmp' : α → α → Ordering)
    (h : Circle (fun a b => (cmp a b).then (cmp' a b)) a b c) :
    Circle cmp a b c ∨
      (cmp a b = .eq ∧ cmp b c = .eq ∧ cmp c a = .eq) ∧ Circle cmp' a b c := by
  have hfirst := h.first
  have hsecond := h.second
  have hback := h.back
  simp only [ne_eq, Ordering.then_eq_gt, not_or, not_and] at hfirst hsecond hback
  by_cases level : cmp a b = .eq ∧ cmp b c = .eq ∧ cmp c a = .eq
  · right
    obtain ⟨hab, hbc, hca⟩ := level
    refine ⟨⟨hab, hbc, hca⟩, hfirst.2 hab, hsecond.2 hbc, hback.2 hca, fun level' => ?_⟩
    exact h.uneven ⟨by simp [hab, level'.1], by simp [hbc, level'.2.1], by simp [hca, level'.2.2]⟩
  · exact .inl ⟨hfirst.1, hsecond.1, hback.1, level⟩

/-- Turning a comparison round turns its circles round. -/
theorem Circle.of_swap (h : Circle (fun a b => (cmp a b).swap) a b c)
    (hswap : ∀ a b, cmp b a = (cmp a b).swap) : Circle cmp a c b := by
  have hac : cmp a c = (cmp c a).swap := hswap c a
  have hcb : cmp c b = (cmp b c).swap := hswap b c
  have hba : cmp b a = (cmp a b).swap := hswap a b
  refine ⟨?_, ?_, ?_, fun level => ?_⟩
  · rw [hac]; exact h.back
  · rw [hcb]; exact h.second
  · rw [hba]; exact h.first
  · rw [hac, hcb, hba] at level
    exact h.uneven ⟨level.2.2, level.2.1, level.1⟩

/-- Three elements that break transitivity go round in a circle. -/
theorem Circle.of_ne_trans (hswap : ∀ a b, cmp b a = (cmp a b).swap) (hab : cmp a b ≠ .gt)
    (hbc : cmp b c ≠ .gt) (hac : cmp a c = .gt) : Circle cmp a b c := by
  have hca : cmp c a = .lt := by rw [hswap a c, hac]; rfl
  refine ⟨hab, hbc, ?_, fun level => ?_⟩
  · rw [hca]; decide
  · rw [hca] at level
    exact nomatch level.2.2

end

end Catalog
