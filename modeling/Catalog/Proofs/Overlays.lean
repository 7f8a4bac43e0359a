import Catalog.Json.Overlay
import Catalog.Proofs.SortedEntries

/-!
# Values laid over each other

Objects whose fields are in key order stay so when they are laid over each other. What is set in the
upper value is set in the result, and what the upper value omits stays as it is below.

## Key results

- `Json.Ordered.overlay`: fields stay in order
- `Json.at?_overlay_of_number`: a number of the upper value is one of the result
- `Json.at?_overlay_of_omits`: what the upper value omits is that of the lower one
-/

namespace Catalog.Json

/-- The value at the end of a chain of keys. -/
def at? (j : Json) : List String → Option Json
  | [] => some j
  | key :: keys => (j.get? key).bind fun value => value.at? keys

theorem at?_cons (j : Json) (key : String) (keys : List String) :
    j.at? (key :: keys) = (j.get? key).bind fun value => value.at? keys := rfl

/-- A value below a chain of keys has an object at each of them. -/
theorem exists_of_at?_cons {j value : Json} {key : String} {keys : List String}
    (h : j.at? (key :: keys) = some value) : ∃ fields inner, j = .object fields ∧
      fields.lookup key = some inner ∧ inner.at? keys = some value := by
  rw [at?_cons] at h
  obtain ⟨inner, hinner, hvalue⟩ := Option.bind_eq_some_iff.1 h
  cases j with
  | object fields => exact ⟨fields, inner, rfl, hinner, hvalue⟩
  | null | bool | number | string | array => cases hinner

/-! ## Objects in key order -/

/-- The fields of every object inside, other than those in lists, are in key order. -/
inductive Ordered : Json → Prop where
  /-- A value that is no object. -/
  | leaf {j : Json} (h : ∀ fields, j ≠ .object fields) : Ordered j
  /-- An object in key order of values that are so. -/
  | object {fields : Fields} (hkeys : fields.Pairwise fun a b => a.1 < b.1)
    (hvalues : ∀ e ∈ fields, Ordered e.2) : Ordered (.object fields)

theorem Ordered.keys {fields : Fields} (h : Ordered (.object fields)) :
    fields.Pairwise fun a b => a.1 < b.1 := by
  cases h with
  | leaf h => exact absurd rfl (h fields)
  | object hkeys => exact hkeys

theorem Ordered.of_mem {fields : Fields} (h : Ordered (.object fields)) {e : String × Json}
    (he : e ∈ fields) : e.2.Ordered := by
  cases h with
  | leaf h => exact absurd rfl (h fields)
  | object _ hvalues => exact hvalues e he

theorem Ordered.of_lookup {fields : Fields} (h : Ordered (.object fields)) {key : String}
    {value : Json} (hvalue : fields.lookup key = some value) : value.Ordered := by
  obtain ⟨front, back, hsplit, -⟩ := List.lookup_eq_some_iff.1 hvalue
  refine h.of_mem (e := (key, value)) ?_
  rw [hsplit]
  exact List.mem_append_right front List.mem_cons_self

theorem Ordered.empty : Ordered (.object []) :=
  .object .nil fun _ h => nomatch h

/-- A field that is put in its place keeps the order. -/
theorem Ordered.insert {fields : Fields} (h : Ordered (.object fields)) (key : String)
    {value : Json} (hvalue : value.Ordered) :
    Ordered (.object (SortedMap.insertEntry key value fields)) := by
  refine .object (SortedMap.pairwise_insertEntry key value h.keys) fun e he => ?_
  rcases SortedMap.mem_insertEntry he with rfl | he
  · exact hvalue
  · exact h.of_mem he

theorem Ordered.nested {value : Json} (h : value.Ordered) (keys : List String) :
    (nested keys value).Ordered := by
  induction keys with
  | nil => exact h
  | cons key keys ih =>
    refine .object (List.pairwise_singleton _ _) fun e he => ?_
    rw [List.mem_singleton.1 he]
    exact ih

/-- A value that is no object replaces what is below it. -/
theorem overlay_leaf (base : Json) {top : Json} (h : ∀ fields, top ≠ .object fields) :
    base.overlay top = top := by
  cases top with
  | object fields => exact absurd rfl (h fields)
  | null | bool | number | string | array => cases base <;> rfl

/-- So does an object, if there is none below it. -/
theorem overlay_object_of_leaf {base : Json} (h : ∀ fields, base ≠ .object fields)
    (fields : Fields) : base.overlay (.object fields) = .object fields := by
  cases base with
  | object b => exact absurd rfl (h b)
  | null | bool | number | string | array => rfl

/-- Laying ordered values over each other keeps them ordered. -/
theorem Ordered.overlay {base top : Json} (hbase : base.Ordered) (htop : top.Ordered) :
    (base.overlay top).Ordered := by
  induction htop generalizing base with
  | leaf h =>
    rw [overlay_leaf base h]
    exact .leaf h
  | @object fields hkeys hvalues ih =>
    cases hbase with
    | leaf h =>
      rw [overlay_object_of_leaf h]
      exact .object hkeys hvalues
    | @object b hb hbvalues =>
      show Ordered (.object (overlayFields b fields))
      -- field by field, each is merged with the one of its key below
      have hordered : Ordered (.object b) := .object hb hbvalues
      clear hb hbvalues hkeys
      induction fields generalizing b with
      | nil => exact hordered
      | cons field fields ihfields =>
        obtain ⟨key, value⟩ := field
        rw [overlayFields]
        refine ihfields (fun e he => hvalues e (List.mem_cons_of_mem _ he))
          (fun e he => ih e (List.mem_cons_of_mem _ he)) ?_
        apply hordered.insert
        cases hold : b.lookup key with
        | none => exact hvalues (key, value) List.mem_cons_self
        | some old => exact ih (key, value) List.mem_cons_self (hordered.of_lookup hold)

/-! ## What is set -/

/-- Fields of an ordered object are laid over those below key by key. -/
theorem lookup_overlayFields {fields : Fields} (h : fields.Pairwise fun a b => a.1 < b.1)
    (base : Fields) (key : String) : (overlayFields base fields).lookup key =
      match fields.lookup key with
      | none => base.lookup key
      | some value => some (match base.lookup key with
        | some old => overlay old value
        | none => value) := by
  induction fields generalizing base with
  | nil => rfl
  | cons field fields ih =>
    obtain ⟨name, value⟩ := field
    obtain ⟨hname, hfields⟩ := List.pairwise_cons.1 h
    rw [overlayFields, ih hfields, SortedMap.lookup_insertEntry, List.lookup_cons]
    by_cases hkey : key = name
    · -- the name does not come a second time
      subst hkey
      have hnone : fields.lookup key = none := by
        rw [List.lookup_eq_none_iff]
        intro e he
        simpa using (String.ne_of_lt (hname e he))
      rw [hnone, beq_self_eq_true]
      refine (if_pos rfl).trans ?_
      cases base.lookup key with
      | none => rfl
      | some old => rfl
    · rw [beq_false_of_ne hkey, if_neg hkey]

/-- A number that the upper value has at the end of a chain of keys is there in the result. -/
theorem at?_overlay_of_number {path : List String} {base top : Json} (htop : top.Ordered)
    {n : JsonNumber} (h : top.at? path = some (.number n)) :
    (base.overlay top).at? path = some (.number n) := by
  induction path generalizing base top with
  | nil =>
    obtain rfl : top = .number n := Option.some.inj h
    rw [overlay_leaf base (by intro fields hfields; cases hfields)]
    rfl
  | cons key keys ih =>
    obtain ⟨fields, inner, rfl, hinner, hvalue⟩ := exists_of_at?_cons h
    cases base with
    | object b =>
      show (((overlayFields b fields).lookup key).bind fun value => value.at? keys) = _
      rw [lookup_overlayFields htop.keys, hinner]
      cases b.lookup key with
      | none => exact hvalue
      | some old => exact ih (htop.of_lookup hinner) hvalue
    | null | bool | number | string | array => exact h

theorem at?_nested (path : List String) (value : Json) :
    (nested path value).at? path = some value := by
  induction path with
  | nil => rfl
  | cons key keys ih =>
    show ((([(key, nested keys value)] : Fields).lookup key).bind fun value => value.at? keys) = _
    rw [List.lookup_cons, beq_self_eq_true]
    exact ih

/-- A value tells nothing about the end of a chain of keys: there are objects on the way to it, of
which the last one has not the next key. -/
def omits : Json → List String → Bool
  | .object fields, key :: keys =>
    match fields.lookup key with
    | none => true
    | some value => value.omits keys
  | _, _ => false

/-- What a value omits it has not. -/
theorem at?_eq_none_of_omits {path : List String} {j : Json} (h : j.omits path = true) :
    j.at? path = none := by
  induction path generalizing j with
  | nil => cases j <;> cases h
  | cons key keys ih =>
    cases j with
    | object fields =>
      rw [omits] at h
      show ((fields.lookup key).bind fun value => value.at? keys) = none
      cases hvalue : fields.lookup key with
      | none => rfl
      | some value =>
        rw [hvalue] at h
        exact ih h
    | null | bool | number | string | array => cases h

/-- What the upper value omits is that of the lower one. -/
theorem at?_overlay_of_omits {path : List String} {top : Json} (htop : top.Ordered)
    (h : top.omits path = true) (base : Json) : (base.overlay top).at? path = base.at? path := by
  have hnone := at?_eq_none_of_omits h
  induction path generalizing base top with
  | nil => cases hnone
  | cons key keys ih =>
    cases top with
    | object fields =>
      cases base with
      | object b =>
        show (((overlayFields b fields).lookup key).bind _) = ((b.lookup key).bind _)
        rw [omits] at h
        rw [lookup_overlayFields htop.keys]
        cases hvalue : fields.lookup key with
        | none => rfl
        | some value =>
          rw [hvalue] at h
          have hbelow := at?_eq_none_of_omits h
          cases b.lookup key with
          | none => exact hbelow
          | some old => exact ih (htop.of_lookup hvalue) h old hbelow
      | null | bool | number | string | array => exact hnone
    | null | bool | number | string | array => cases h

end Catalog.Json
