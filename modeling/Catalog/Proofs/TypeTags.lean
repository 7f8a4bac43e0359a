import Catalog.Proofs.TargetLevels
import Catalog.Schema
import Mathlib.Data.Bool.AllAny

/-!
# Type tags

The tags of field types are a small language: the name of a scalar type, or such a name between
angle brackets behind the word `array`, with blanks inside the brackets only. What is accepted,
after blanks around it and the case of its letters have been taken away, are just the words of this
language, and each of them is the canonical tag of its type but for its blanks.

## Key results

- `FieldType.ofTag?_eq_some_iff`: the accepted tags are the words of the language
- `FieldType.Denotes.tag_eq`: what the canonical tag of an accepted one is
- `FieldType.Malformed.not_denotes`: brackets and blanks that no tag has
- `FieldType.ofTag_exact`: which tags are read, as what, and what is said of the others
-/

namespace Catalog

namespace Text

/-! ## Leads, tails and small letters -/

theorem dropLead?_eq_some_iff {lead cs rest : List Char} :
    dropLead? lead cs = some rest ↔ cs = lead ++ rest := by
  constructor
  · intro h
    obtain ⟨behind, rfl⟩ := isSome_dropLead?_iff.1 (Option.isSome_of_eq_some h)
    rw [dropLead?_append, Option.some_inj] at h
    rw [h]
  · intro h
    rw [h, dropLead?_append]

theorem dropTail?_eq_some_iff {tail cs rest : List Char} :
    dropTail? tail cs = some rest ↔ cs = rest ++ tail := by
  rw [dropTail?, Option.map_eq_some_iff]
  constructor
  · intro h
    obtain ⟨before, hbefore, hrest⟩ := h
    rw [← List.reverse_inj, dropLead?_eq_some_iff.1 hbefore, ← hrest]
    simp
  · intro h
    exact ⟨rest.reverse, dropLead?_eq_some_iff.2 (by simp [h]), List.reverse_reverse rest⟩

end Text

open Text

/-! ## Names of scalar types -/

namespace ScalarType

theorem lowerAscii_name (t : ScalarType) : lowerAscii t.name.toList = t.name.toList := by
  cases t <;> decide

theorem not_blank_of_mem_name (t : ScalarType) : ∀ c ∈ t.name.toList, isBlank c = false := by
  cases t <;> exact List.all_iff_forall_prop.1 (by decide)

theorem bracket_not_mem_name (t : ScalarType) : '<' ∉ t.name.toList ∧ '>' ∉ t.name.toList := by
  cases t <;> decide

/-- Only its own name names a type. -/
theorem ofName?_eq_some_iff {cs : List Char} {t : ScalarType} :
    ofName? cs = some t ↔ cs = t.name.toList := by
  constructor
  · intro h
    rw [ofName?] at h
    have hfound := List.find?_some h
    exact (eq_of_beq hfound).symm
  · rintro rfl
    cases t <;> decide

/-- In small letters, the tags of a scalar type are its name with blanks around it. -/
theorem ofTag?_eq_some_iff {word : List Char} (hlower : lowerAscii word = word) {t : ScalarType} :
    ofTag? word = some t ↔ ∃ before after, (∀ c ∈ before, isBlank c = true) ∧
      (∀ c ∈ after, isBlank c = true) ∧ word = before ++ t.name.toList ++ after := by
  rw [ofTag?, ofName?_eq_some_iff, ← spells_iff t.lowerAscii_name t.not_blank_of_mem_name]
  constructor
  · intro h
    obtain ⟨before, written, after, hbefore, hafter, hsame, hword⟩ := h
    -- what is written is part of the word, so it is in small letters already
    have hwritten : lowerAscii written = written := by
      rw [hword] at hlower
      simp only [lowerAscii, List.map_append] at hlower
      exact (List.append_inj (List.append_inj hlower (by simp)).1 (by simp)).2
    have hname : written = t.name.toList := by
      simpa [sameIgnoringCase, hwritten, t.lowerAscii_name] using hsame
    exact ⟨before, after, hbefore, hafter, hname ▸ hword⟩
  · intro h
    obtain ⟨before, after, hbefore, hafter, hword⟩ := h
    exact ⟨before, t.name.toList, after, hbefore, hafter, by simp [sameIgnoringCase], hword⟩

end ScalarType

/-! ## The language of tags -/

namespace FieldType

/-- What stands in front of the element of an array. -/
def arrayLead : List Char := "array<".toList

/-- The words for types. -/
inductive Denotes : List Char → FieldType → Prop where
  /-- A scalar type goes by its name. -/
  | scalar (t : ScalarType) : Denotes t.name.toList (.scalar t)
  /-- An array goes by the name of its element, which blanks may surround. -/
  | arrayOf (t : ScalarType) {before after : List Char} (hbefore : ∀ c ∈ before, isBlank c = true)
    (hafter : ∀ c ∈ after, isBlank c = true) :
    Denotes (arrayLead ++ (before ++ t.name.toList ++ after) ++ ['>']) (.arrayOf t)

theorem elementTag?_eq_some_iff {word inner : List Char} :
    elementTag? word = some inner ↔ word = arrayLead ++ inner ++ ['>'] := by
  rw [elementTag?, Option.bind_eq_some_iff]
  simp only [dropLead?_eq_some_iff, dropTail?_eq_some_iff]
  constructor
  · intro h
    obtain ⟨rest, hword, hrest⟩ := h
    rw [hword, hrest, List.append_assoc]
    rfl
  · intro h
    exact ⟨inner ++ ['>'], by rw [h, List.append_assoc]; rfl, rfl⟩

/-- A scalar type is not taken for an array. -/
theorem elementTag?_name (t : ScalarType) : elementTag? t.name.toList = none := by
  cases t <;> decide

/-- A tag is read as the type that its word denotes. -/
theorem ofTag?_eq_some_iff {cs : List Char} {type : FieldType} :
    ofTag? cs = some type ↔ Denotes (lowerAscii (trim cs)) type := by
  have hlower := lowerAscii_lowerAscii (trim cs)
  unfold ofTag?
  generalize lowerAscii (trim cs) = word at hlower
  cases hinner : elementTag? word with
  | some inner =>
    have hword := elementTag?_eq_some_iff.1 hinner
    -- the element is in small letters like all of the word
    have helement : lowerAscii inner = inner := by
      rw [hword] at hlower
      simp only [lowerAscii, List.map_append] at hlower
      exact (List.append_inj (List.append_inj hlower (by simp)).1 (by simp)).2
    simp only [hinner, Option.map_eq_some_iff]
    constructor
    · intro h
      obtain ⟨t, ht, rfl⟩ := h
      obtain ⟨before, after, hbefore, hafter, rfl⟩ := (ScalarType.ofTag?_eq_some_iff helement).1 ht
      rw [hword]
      exact .arrayOf t hbefore hafter
    · intro h
      cases h with
      | scalar t => rw [elementTag?_name] at hinner; cases hinner
      | @arrayOf t before after hbefore hafter =>
        obtain rfl := List.append_cancel_left (List.append_cancel_right hword)
        exact ⟨t, (ScalarType.ofTag?_eq_some_iff helement).2
          ⟨before, after, hbefore, hafter, rfl⟩, rfl⟩
  | none =>
    simp only [hinner, Option.map_eq_some_iff]
    constructor
    · intro h
      obtain ⟨t, ht, rfl⟩ := h
      rw [ScalarType.ofName?_eq_some_iff.1 ht]
      exact .scalar t
    · intro h
      cases h with
      | scalar t => exact ⟨t, ScalarType.ofName?_eq_some_iff.2 rfl, rfl⟩
      | arrayOf t => rw [elementTag?_eq_some_iff.2 rfl] at hinner; cases hinner

theorem ofTag_eq_ok_iff {s : String} {type : FieldType} :
    ofTag s = .ok type ↔ Denotes (lowerAscii (trim s.toList)) type := by
  rw [← ofTag?_eq_some_iff, ofTag]
  cases ofTag? s.toList <;> simp

/-- A tag that is not read is reported as it is. -/
theorem ofTag_eq_error_iff {s : String} {e : UnknownTypeTag} :
    ofTag s = .error e ↔ e = ⟨s⟩ ∧ ∀ type, ¬ Denotes (lowerAscii (trim s.toList)) type := by
  simp only [← ofTag?_eq_some_iff, ← Option.eq_none_iff_forall_ne_some, ofTag]
  cases ofTag? s.toList <;> simp [eq_comm]

/-! ## Canonical tags -/

/-- The canonical tag of a type is read as this type. -/
theorem ofTag_tag (type : FieldType) : ofTag type.tag = .ok type := by
  cases type with
  | scalar t => cases t <;> rfl
  | arrayOf t => cases t <;> rfl

/-- Without its blanks, a word is the canonical tag of what it denotes. -/
theorem Denotes.tag_eq {word : List Char} {type : FieldType} (h : Denotes word type) :
    type.tag.toList = word.filter fun c => !isBlank c := by
  have hname : ∀ t : ScalarType, t.name.toList.filter (fun c => !isBlank c) = t.name.toList := by
    intro t
    exact List.filter_eq_self.2 fun c hc => by simp [t.not_blank_of_mem_name c hc]
  cases h with
  | scalar t => exact (hname t).symm
  | arrayOf t hbefore hafter =>
    have hblanks : ∀ {cs : List Char}, (∀ c ∈ cs, isBlank c = true) →
        cs.filter (fun c => !isBlank c) = [] := by
      intro cs hcs
      exact List.filter_eq_nil_iff.2 fun c hc => by simp [hcs c hc]
    have hlead : arrayLead.filter (fun c => !isBlank c) = arrayLead := by decide
    have hclose : ['>'].filter (fun c => !isBlank c) = ['>'] := by decide
    simp only [List.filter_append, hname, hblanks hbefore, hblanks hafter, hlead, hclose]
    simp [tag, arrayLead]

/-- Types with one canonical tag are one type. -/
theorem tag_injective {type type' : FieldType} (h : type.tag = type'.tag) : type = type' := by
  have hread := ofTag_tag type
  rw [h, ofTag_tag] at hread
  exact (Except.ok.inj hread).symm

/-! ## What no tag is -/

/-- Words with brackets or blanks that tags do not have. -/
inductive Malformed : List Char → Prop where
  /-- An array inside an array. -/
  | nested {word : List Char} (h : 1 < word.count '<') : Malformed word
  /-- A bracket without its counterpart. -/
  | unbalanced {word : List Char} (h : word.count '<' ≠ word.count '>') : Malformed word
  /-- A blank that neither follows the opening bracket nor precedes the closing one, other blanks
  apart. -/
  | spaced {front back : List Char} {c : Char} (hc : isBlank c = true)
    (hfront : (trimEnd front).getLast? ≠ some '<') (hback : (trimStart back).head? ≠ some '>') :
    Malformed (front ++ c :: back)

/-- Brackets come in one pair at most. -/
theorem Denotes.count_brackets {word : List Char} {type : FieldType} (h : Denotes word type) :
    word.count '<' ≤ 1 ∧ word.count '<' = word.count '>' := by
  have hname : ∀ t : ScalarType, t.name.toList.count '<' = 0 ∧ t.name.toList.count '>' = 0 :=
    fun t => t.bracket_not_mem_name.imp List.count_eq_zero_of_not_mem List.count_eq_zero_of_not_mem
  cases h with
  | scalar t => simp [hname t]
  | arrayOf t hbefore hafter =>
    -- brackets are not blank
    have hblanks : ∀ {cs : List Char}, (∀ c ∈ cs, isBlank c = true) →
        cs.count '<' = 0 ∧ cs.count '>' = 0 := by
      intro cs hcs
      constructor
      · exact List.count_eq_zero_of_not_mem fun hmem => absurd (hcs _ hmem) (by decide)
      · exact List.count_eq_zero_of_not_mem fun hmem => absurd (hcs _ hmem) (by decide)
    have hlead : arrayLead.count '<' = 1 ∧ arrayLead.count '>' = 0 := by decide
    simp [hname t, hblanks hbefore, hblanks hafter, hlead]

/-- Where a character stands in two texts in a row. -/
private theorem append_eq_append_cons {xs ys front back : List Char} {c : Char}
    (h : xs ++ ys = front ++ c :: back) :
    (∃ rest, xs = front ++ c :: rest ∧ back = rest ++ ys) ∨
      ∃ rest, front = xs ++ rest ∧ ys = rest ++ c :: back := by
  rcases List.append_eq_append_iff.1 h with ⟨rest, hfront, hys⟩ | ⟨rest, hxs, hback⟩
  · exact .inr ⟨rest, hfront, hys⟩
  · cases rest with
    | nil => exact .inr ⟨[], by simpa using hxs.symm, by simpa using hback.symm⟩
    | cons d rest =>
      obtain ⟨rfl, rfl⟩ := List.cons_eq_cons.1 hback
      exact .inl ⟨rest, hxs, rfl⟩

/-- A blank in a word follows the opening bracket or precedes the closing one. -/
theorem Denotes.bracket_of_blank {front back : List Char} {c : Char} {type : FieldType}
    (h : Denotes (front ++ c :: back) type) (hc : isBlank c = true) :
    (trimEnd front).getLast? = some '<' ∨ (trimStart back).head? = some '>' := by
  have hmem : c ∈ front ++ c :: back := by simp
  generalize hword : front ++ c :: back = word at h hmem
  cases h with
  | scalar t =>
    rw [t.not_blank_of_mem_name c hmem] at hc
    cases hc
  | @arrayOf t before after hbefore hafter =>
    have hlead : ∀ d ∈ arrayLead, isBlank d = false := List.all_iff_forall_prop.1 (by decide)
    -- the blank is neither in front of the bracket nor in the name nor behind
    rw [List.append_assoc] at hword
    rcases append_eq_append_cons hword.symm with ⟨rest, harray, -⟩ | ⟨inner, rfl, hrest⟩
    · rw [hlead c (by simp [harray])] at hc
      cases hc
    rw [List.append_assoc, List.append_assoc] at hrest
    rcases append_eq_append_cons hrest with ⟨rest, hblanks, -⟩ | ⟨inner', rfl, hrest'⟩
    · have hinner : ∀ d ∈ inner.reverse, isBlank d = true := by
        intro d hd
        exact hbefore d (by simp [hblanks, List.mem_reverse.1 hd])
      have htrim : (arrayLead ++ inner).reverse.dropWhile isBlank = arrayLead.reverse := by
        rw [List.reverse_append]
        exact dropWhile_append_stop hinner fun d hd =>
          hlead d (List.mem_reverse.1 (List.mem_of_head? hd))
      left
      rw [trimEnd, htrim]
      rfl
    rcases append_eq_append_cons hrest' with ⟨rest, hname, -⟩ | ⟨inner'', rfl, hrest''⟩
    · rw [t.not_blank_of_mem_name c (by simp [hname])] at hc
      cases hc
    rcases append_eq_append_cons hrest'' with ⟨rest, hblanks, hback⟩ | ⟨last, -, hclose⟩
    · have hinner : ∀ d ∈ rest, isBlank d = true := fun d hd => hafter d (by simp [hblanks, hd])
      have htrim : trimStart back = ['>'] := by
        rw [hback]
        exact dropWhile_append_stop hinner fun d hd => by
          obtain rfl : '>' = d := Option.some.inj hd
          decide
      right
      rw [htrim]
      rfl
    · have hmem : c ∈ ['>'] := hclose ▸ by simp
      rw [List.mem_singleton.1 hmem] at hc
      cases hc

theorem Malformed.not_denotes {word : List Char} (h : Malformed word) (type : FieldType) :
    ¬ Denotes word type := by
  intro hdenotes
  cases h with
  | nested h => exact absurd hdenotes.count_brackets.1 (Nat.not_le.2 h)
  | unbalanced h => exact h hdenotes.count_brackets.2
  | spaced hc hfront hback => exact (hdenotes.bracket_of_blank hc).elim hfront hback

/-! ## Reading tags -/

/-- Tags are read by exactly their language, up to blanks around them and the case of their letters.
The canonical tag of what is read is the word without its blanks; it is read as the same type and no
other type has it. All else is refused, and reported as it was given. -/
theorem ofTag_exact (s : String) :
    (∀ type, ofTag s = .ok type ↔ Denotes (lowerAscii (trim s.toList)) type) ∧
    (∀ e, ofTag s = .error e ↔
      e = ⟨s⟩ ∧ ∀ type, ¬ Denotes (lowerAscii (trim s.toList)) type) ∧
    (∀ type, ofTag s = .ok type →
      type.tag.toList = (lowerAscii (trim s.toList)).filter (fun c => !isBlank c) ∧
      ofTag type.tag = .ok type ∧
      ∀ s' type', ofTag s' = .ok type' → type'.tag = type.tag → type' = type) ∧
    (Malformed (lowerAscii (trim s.toList)) → ofTag s = .error ⟨s⟩) := by
  refine ⟨fun type => ofTag_eq_ok_iff, fun e => ofTag_eq_error_iff, ?canonical, ?malformed⟩
  case canonical =>
    intro type h
    exact ⟨(ofTag_eq_ok_iff.1 h).tag_eq, ofTag_tag type, fun _ _ _ => tag_injective⟩
  case malformed =>
    intro h
    exact ofTag_eq_error_iff.2 ⟨rfl, h.not_denotes⟩

example : ofTag " Array<\u2003DATE >\n" = .ok (.arrayOf .date) ∧
    ofTag "array <date>" = .error ⟨"array <date>"⟩ := by decide

end FieldType

end Catalog
