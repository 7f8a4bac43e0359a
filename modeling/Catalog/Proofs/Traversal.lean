import Mathlib.Data.List.Forall2

/-!
# Traversals that may fail

A traversal of a list succeeds exactly when each of its steps does, and then the results stand
beside the elements, in order. Both kinds of failure are covered: with an error and without one.

## Key results

- `mapM_eq_ok_iff`, `mapM_eq_some_iff`: success of a traversal, step by step
- `mapM_eq_error_iff`: failure of a traversal at its first step that fails
- `lookup_of_forall₂`: looking a key up in two lists that agree entry by entry
-/

namespace Catalog

variable {α β ε : Type}

/-- A computation that succeeds has succeeded at its first step. -/
theorem exists_of_bind_eq_ok {x : Except ε α} {f : α → Except ε β} {b : β}
    (h : x >>= f = .ok b) : ∃ a, x = .ok a ∧ f a = .ok b := by
  cases x with
  | error e => cases h
  | ok a => exact ⟨a, rfl, h⟩

/-- A mapped result is one when the result is. -/
theorem map_eq_ok_iff {f : α → β} {x : Except ε α} {b : β} :
    x.map f = .ok b ↔ ∃ a, x = .ok a ∧ f a = b := by
  cases x with
  | error e => simp [Except.map]
  | ok a => simp [Except.map]

/-- Mapping a result keeps its error. -/
theorem map_eq_error_iff {f : α → β} {x : Except ε α} {e : ε} :
    x.map f = .error e ↔ x = .error e := by
  cases x with
  | error e' => simp [Except.map]
  | ok a => simp [Except.map]

/-- A traversal with errors succeeds when every step does. -/
theorem mapM_eq_ok_iff (f : α → Except ε β) (xs : List α) (ys : List β) :
    xs.mapM f = .ok ys ↔ List.Forall₂ (fun x y => f x = .ok y) xs ys := by
  induction xs generalizing ys with
  | nil =>
    rw [List.mapM_nil, List.forall₂_nil_left_iff]
    exact ⟨fun h => (Except.ok.inj h).symm, fun h => by rw [h]; rfl⟩
  | cons x xs ih =>
    rw [List.mapM_cons, List.forall₂_cons_left_iff]
    constructor
    · intro h
      -- the first step and the rest succeed
      cases hx : f x with
      | error e => rw [hx] at h; cases h
      | ok y =>
        cases hxs : xs.mapM f with
        | error e => rw [hx, hxs] at h; cases h
        | ok rest =>
          rw [hx, hxs] at h
          exact ⟨y, rest, rfl, (ih rest).1 hxs, (Except.ok.inj h).symm⟩
    · rintro ⟨y, rest, hx, hxs, rfl⟩
      rw [hx, (ih rest).2 hxs]
      rfl

/-- A traversal with errors fails with the error of its first step that fails. -/
theorem mapM_eq_error_iff (f : α → Except ε β) (xs : List α) (e : ε) :
    xs.mapM f = .error e ↔ ∃ before x after, xs = before ++ x :: after ∧
      (∀ b ∈ before, ∃ y, f b = .ok y) ∧ f x = .error e := by
  induction xs with
  | nil =>
    rw [List.mapM_nil]
    exact ⟨nofun, fun ⟨before, x, after, h, _⟩ => by simp at h⟩
  | cons x xs ih =>
    rw [List.mapM_cons]
    cases hx : f x with
    | error e' =>
      -- the first step is the one that fails
      constructor
      · intro h
        cases h
        exact ⟨[], x, xs, rfl, by simp, hx⟩
      · intro h
        obtain ⟨before, y, after, hsplit, hbefore, hy⟩ := h
        cases before with
        | nil =>
          obtain ⟨rfl, rfl⟩ := List.cons.inj hsplit
          rw [hx] at hy
          cases hy
          rfl
        | cons b before =>
          obtain ⟨rfl, -⟩ := List.cons.inj hsplit
          obtain ⟨y, hb⟩ := hbefore x List.mem_cons_self
          rw [hx] at hb
          cases hb
    | ok y =>
      -- the failure is one of the rest
      have hrest : ((do return y :: (← xs.mapM f)) : Except ε (List β)) = .error e ↔
          xs.mapM f = .error e := by
        cases xs.mapM f with
        | error e' => exact Iff.rfl
        | ok ys => exact ⟨nofun, nofun⟩
      refine Iff.trans hrest (ih.trans ?_)
      constructor
      · intro h
        obtain ⟨before, z, after, rfl, hbefore, hz⟩ := h
        refine ⟨x :: before, z, after, rfl, ?_, hz⟩
        simpa [hx] using hbefore
      · intro h
        obtain ⟨before, z, after, hsplit, hbefore, hz⟩ := h
        cases before with
        | nil =>
          obtain ⟨rfl, -⟩ := List.cons.inj hsplit
          rw [hx] at hz
          cases hz
        | cons b before =>
          obtain ⟨rfl, rfl⟩ := List.cons.inj hsplit
          exact ⟨before, z, after, rfl, fun b hb => hbefore b (List.mem_cons_of_mem x hb), hz⟩

/-! ## Traversals without errors -/

/-- A traversal without errors succeeds when every step does. -/
theorem mapM_eq_some_iff (f : α → Option β) (xs : List α) (ys : List β) :
    xs.mapM f = some ys ↔ List.Forall₂ (fun x y => f x = some y) xs ys := by
  induction xs generalizing ys with
  | nil =>
    rw [List.mapM_nil, List.forall₂_nil_left_iff]
    exact ⟨fun h => (Option.some.inj h).symm, fun h => by rw [h]; rfl⟩
  | cons x xs ih =>
    rw [List.mapM_cons, List.forall₂_cons_left_iff]
    constructor
    · intro h
      obtain ⟨y, hx, h⟩ := Option.bind_eq_some_iff.1 h
      obtain ⟨rest, hxs, h⟩ := Option.bind_eq_some_iff.1 h
      exact ⟨y, rest, hx, (ih rest).1 hxs, (Option.some.inj h).symm⟩
    · rintro ⟨y, rest, hx, hxs, rfl⟩
      rw [hx, (ih rest).2 hxs]
      rfl

/-- A traversal whose every step succeeds has a result. -/
theorem exists_forall₂_of_forall_mem {R : α → β → Prop} {xs : List α}
    (h : ∀ x ∈ xs, ∃ y, R x y) : ∃ ys, List.Forall₂ R xs ys := by
  induction xs with
  | nil => exact ⟨[], .nil⟩
  | cons x xs ih =>
    obtain ⟨y, hy⟩ := h x List.mem_cons_self
    obtain ⟨ys, hys⟩ := ih fun z hz => h z (List.mem_cons_of_mem x hz)
    exact ⟨y :: ys, .cons hy hys⟩

/-- Two relations, one after the other, relate lists through a list between them. -/
theorem exists_forall₂_between {γ : Type} {R : α → β → Prop} {S : β → γ → Prop} {xs : List α}
    {zs : List γ} (h : List.Forall₂ (fun x z => ∃ y, R x y ∧ S y z) xs zs) :
    ∃ ys, List.Forall₂ R xs ys ∧ List.Forall₂ S ys zs := by
  induction h with
  | nil => exact ⟨[], .nil, .nil⟩
  | cons hfirst _ ih =>
    obtain ⟨y, hR, hS⟩ := hfirst
    obtain ⟨ys, hRs, hSs⟩ := ih
    exact ⟨y :: ys, .cons hR hRs, .cons hS hSs⟩

/-- Each element on the left has a partner on the right. -/
theorem exists_of_forall₂_left {R : α → β → Prop} {xs : List α} {ys : List β}
    (h : List.Forall₂ R xs ys) {x : α} (hx : x ∈ xs) : ∃ y ∈ ys, R x y := by
  induction h with
  | nil => cases hx
  | cons hR _ ih =>
    rcases List.mem_cons.1 hx with rfl | hx
    · exact ⟨_, List.mem_cons_self, hR⟩
    · obtain ⟨y, hy, hR⟩ := ih hx
      exact ⟨y, List.mem_cons_of_mem _ hy, hR⟩

/-- Each element on the right has a partner on the left. -/
theorem exists_of_forall₂_right {R : α → β → Prop} {xs : List α} {ys : List β}
    (h : List.Forall₂ R xs ys) {y : β} (hy : y ∈ ys) : ∃ x ∈ xs, R x y :=
  exists_of_forall₂_left h.flip hy

/-- Two lists with the same keys and related values have related values under each key. -/
theorem lookup_of_forall₂ {R : String → α → β → Prop} {xs : List (String × α)}
    {ys : List (String × β)}
    (h : List.Forall₂ (fun x y => x.1 = y.1 ∧ R x.1 x.2 y.2) xs ys) (key : String) :
    Option.Rel (R key) (xs.lookup key) (ys.lookup key) := by
  induction h with
  | nil => exact .none
  | cons hxy _ ih =>
    rename_i x y xs ys _
    obtain ⟨k, a⟩ := x
    obtain ⟨k', b⟩ := y
    obtain ⟨rfl, hR⟩ := hxy
    rw [List.lookup_cons, List.lookup_cons]
    by_cases hk : key = k
    · subst hk
      rw [beq_self_eq_true]
      exact .some hR
    · rw [beq_false_of_ne hk]
      exact ih

end Catalog
