import Catalog.Proofs.ConfiguredLinks

/-!
# Occurrences in a text

A text that is looked for may start at several places of another one. If its first character comes
in it only once, no two of its occurrences overlap, so that a text may be cut in front of that
character: what is replaced in the whole is what is replaced in the two parts.

## Key results

- `Text.replaceAll_append_first`, `Text.occurrences_append_first`: a text cut in two
- `Text.length_replaceAll`: how long the text becomes
- `Text.replaceAll_eq_self_iff`: when nothing changes
- `Text.intercalate_replaceAll_eq_iff`: when nothing changes between separators
-/

namespace Catalog.Text

/-- Go through a text from left to right, from occurrence to occurrence of some other texts. -/
theorem induction_on_targets {targets : List (List Char)} {motive : List Char → Prop}
    (hne : ∀ target ∈ targets, target ≠ []) (nil : motive [])
    (occurrence : ∀ target ∈ targets, ∀ rest, motive rest → motive (target ++ rest))
    (char : ∀ c cs, (∀ target ∈ targets, ¬ target <+: c :: cs) → motive cs → motive (c :: cs))
    (cs : List Char) : motive cs := by
  induction hlength : cs.length using Nat.strongRecOn generalizing cs with
  | ind n ih =>
    cases cs with
    | nil => exact nil
    | cons c cs =>
      by_cases h : ∃ target ∈ targets, target <+: c :: cs
      · obtain ⟨target, htarget, rest, hrest⟩ := h
        have hpos := List.length_pos_iff.2 (hne target htarget)
        have hsum := congrArg List.length hrest
        rw [List.length_append] at hsum
        rw [← hrest]
        exact occurrence target htarget rest (ih rest.length (by omega) rest rfl)
      · have hnone : ∀ target ∈ targets, ¬ target <+: c :: cs :=
          fun target htarget hstart => h ⟨target, htarget, hstart⟩
        rw [List.length_cons] at hlength
        exact char c cs hnone (ih cs.length (by omega) cs rfl)

/-- Go through a text from left to right, from occurrence to occurrence of another one. -/
theorem induction_on_target {target : List Char} {motive : List Char → Prop} (hne : target ≠ [])
    (nil : motive []) (occurrence : ∀ rest, motive rest → motive (target ++ rest))
    (char : ∀ c cs, ¬ target <+: c :: cs → motive cs → motive (c :: cs)) (cs : List Char) :
    motive cs := by
  have hnone : ∀ other ∈ [target], other ≠ [] := by simpa using hne
  induction cs using induction_on_targets hnone with
  | nil => exact nil
  | occurrence other hother rest ih =>
    rw [List.mem_singleton.1 hother]
    exact occurrence rest ih
  | char c cs hnone ih => exact char c cs (hnone target (List.mem_singleton_self target)) ih

/-- The number of places of a text at which another one starts. -/
def occurrences (target : List Char) : List Char → Nat
  | [] => 0
  | c :: cs => occurrences target cs + if target <+: c :: cs then 1 else 0

theorem occurrences_cons {target : List Char} {c : Char} {cs : List Char}
    (h : ¬ target <+: c :: cs) : occurrences target (c :: cs) = occurrences target cs := by
  rw [occurrences, if_neg h, Nat.add_zero]

theorem replaceAll_nil {t : Char} {ts value : List Char} : replaceAll (t :: ts) value [] = [] :=
  replaceAll_of_not_mem List.not_mem_nil

/-- A text that does not start with a lead cannot be left without it. -/
theorem dropLead?_eq_none {lead cs : List Char} (h : ¬ lead <+: cs) : dropLead? lead cs = none := by
  rw [← isSome_dropLead?_iff, Bool.not_eq_true, Option.isSome_eq_false_iff] at h
  exact Option.isNone_iff_eq_none.1 h

/-- An occurrence at the front of a text is replaced. -/
theorem replaceAll_target {target value rest : List Char} (hne : target ≠ []) :
    replaceAll target value (target ++ rest) = value ++ replaceAll target value rest := by
  have hnone : ¬ target <:+: [] ++ target.dropLast := by
    intro hin
    have hle := hin.length_le
    have hpos := List.length_pos_iff.2 hne
    rw [List.nil_append, List.length_dropLast] at hle
    omega
  exact replaceAll_append hne hnone

section First

variable {t : Char} {ts value : List Char}

/-! ## Texts without the first character -/

theorem not_starts_cons_of_ne {c : Char} {cs : List Char} (h : t ≠ c) : ¬ t :: ts <+: c :: cs :=
  fun hstart => h (List.cons_prefix_cons.1 hstart).1

/-- Nothing starts in a word without the first character. -/
theorem replaceAll_append_of_not_mem {word : List Char} (h : t ∉ word) (rest : List Char) :
    replaceAll (t :: ts) value (word ++ rest) = word ++ replaceAll (t :: ts) value rest := by
  induction word with
  | nil => rfl
  | cons c cs ih =>
    rw [List.mem_cons, not_or] at h
    rw [List.cons_append, replaceAll_cons (List.cons_ne_nil t ts) (not_starts_cons_of_ne h.1),
      ih h.2, List.cons_append]

theorem occurrences_append_of_not_mem {word : List Char} (h : t ∉ word) (rest : List Char) :
    occurrences (t :: ts) (word ++ rest) = occurrences (t :: ts) rest := by
  induction word with
  | nil => rfl
  | cons c cs ih =>
    rw [List.mem_cons, not_or] at h
    rw [List.cons_append, occurrences_cons (not_starts_cons_of_ne h.1), ih h.2]

/-- So it is in a word in which only the first character may start an occurrence, and does not. -/
theorem replaceAll_cons_append {word rest : List Char} (h : t ∉ word)
    (hnot : ¬ t :: ts <+: t :: word ++ rest) :
    replaceAll (t :: ts) value (t :: word ++ rest) =
      t :: word ++ replaceAll (t :: ts) value rest := by
  rw [List.cons_append] at hnot
  rw [List.cons_append, replaceAll_cons (List.cons_ne_nil t ts) hnot,
    replaceAll_append_of_not_mem h, List.cons_append]

theorem occurrences_cons_append {word rest : List Char} (h : t ∉ word)
    (hnot : ¬ t :: ts <+: t :: word ++ rest) :
    occurrences (t :: ts) (t :: word ++ rest) = occurrences (t :: ts) rest := by
  rw [List.cons_append] at hnot
  rw [List.cons_append, occurrences_cons hnot, occurrences_append_of_not_mem h]

/-! ## Texts cut in front of the first character -/

/-- An occurrence that starts in front of a cut ends in front of it, for the character at the cut
is the first one of an occurrence and none of its others. -/
theorem prefix_append_first_iff (h : t ∉ ts) (c : Char) (cs rest : List Char) :
    t :: ts <+: c :: cs ++ t :: rest ↔ t :: ts <+: c :: cs := by
  constructor
  · intro hstart
    rcases List.prefix_or_prefix_of_prefix hstart (List.prefix_append (c :: cs) (t :: rest)) with
      hinside | ⟨beyond, hbeyond⟩
    · exact hinside
    · cases beyond with
      | nil => exact ⟨[], by rw [← hbeyond]; simp⟩
      | cons x beyond =>
        -- the part of the occurrence behind the cut would start with its first character
        rw [← hbeyond, List.prefix_append_right_inj, List.cons_prefix_cons] at hstart
        rw [List.cons_append, List.cons.injEq] at hbeyond
        exact absurd (by rw [← hbeyond.2, ← hstart.1]; simp) h
  · exact fun hstart => hstart.trans (List.prefix_append _ _)

theorem replaceAll_append_first (h : t ∉ ts) (word rest : List Char) :
    replaceAll (t :: ts) value (word ++ t :: rest) =
      replaceAll (t :: ts) value word ++ replaceAll (t :: ts) value (t :: rest) := by
  have hne := List.cons_ne_nil t ts
  induction word using induction_on_target hne with
  | nil => rw [List.nil_append, replaceAll_nil, List.nil_append]
  | occurrence word ih =>
    rw [List.append_assoc, replaceAll_target hne, replaceAll_target hne, ih, List.append_assoc]
  | char c cs hc ih =>
    have hcut : ¬ t :: ts <+: c :: (cs ++ t :: rest) :=
      mt (prefix_append_first_iff h c cs rest).1 hc
    rw [List.cons_append, replaceAll_cons hne hcut, replaceAll_cons hne hc, ih, List.cons_append]

theorem occurrences_append_first (h : t ∉ ts) (word rest : List Char) :
    occurrences (t :: ts) (word ++ t :: rest) =
      occurrences (t :: ts) word + occurrences (t :: ts) (t :: rest) := by
  induction word with
  | nil => rw [List.nil_append, occurrences, Nat.zero_add]
  | cons c cs ih =>
    have hcut := prefix_append_first_iff h c cs rest
    rw [List.cons_append] at hcut ⊢
    simp only [occurrences, ih, hcut]
    omega

/-- An occurrence at the front of a text is one more. -/
theorem occurrences_target (h : t ∉ ts) (rest : List Char) :
    occurrences (t :: ts) (t :: ts ++ rest) = occurrences (t :: ts) rest + 1 := by
  have hstart : t :: ts <+: t :: (ts ++ rest) := List.prefix_append (t :: ts) rest
  rw [List.cons_append, occurrences, if_pos hstart, occurrences_append_of_not_mem h]

/-! ## What replacing changes -/

/-- Each occurrence is exchanged for the value. -/
theorem length_replaceAll (h : t ∉ ts) (value cs : List Char) :
    (replaceAll (t :: ts) value cs).length + (t :: ts).length * occurrences (t :: ts) cs =
      cs.length + value.length * occurrences (t :: ts) cs := by
  have hne := List.cons_ne_nil t ts
  induction cs using induction_on_target hne with
  | nil => simp [replaceAll_nil, occurrences]
  | occurrence rest ih =>
    rw [replaceAll_target hne, occurrences_target h, List.length_append, List.length_append,
      Nat.mul_succ, Nat.mul_succ]
    omega
  | char c cs hc ih =>
    rw [replaceAll_cons hne hc, occurrences_cons hc, List.length_cons (a := c),
      List.length_cons (a := c)]
    omega

/-- Nothing changes when an occurrence is replaced by itself, or when there is none. -/
theorem replaceAll_eq_self_iff (h : t ∉ ts) (cs : List Char) :
    replaceAll (t :: ts) value cs = cs ↔ value = t :: ts ∨ occurrences (t :: ts) cs = 0 := by
  have hne := List.cons_ne_nil t ts
  induction cs using induction_on_target hne with
  | nil => simp [replaceAll_nil, occurrences]
  | occurrence rest ih =>
    rw [replaceAll_target hne, occurrences_target h]
    constructor
    · intro heq
      -- with an occurrence, the whole keeps its length only if the value has that of the target
      have hlength := length_replaceAll h value (t :: ts ++ rest)
      rw [replaceAll_target hne, heq, occurrences_target h, Nat.add_left_cancel_iff] at hlength
      have hvalue := Nat.eq_of_mul_eq_mul_right (Nat.succ_pos _) hlength
      exact .inl (List.append_inj heq hvalue.symm).1
    · intro hvalue
      rcases hvalue with rfl | hzero
      · rw [ih.2 (.inl rfl)]
      · cases hzero
  | char c cs hc ih =>
    rw [replaceAll_cons hne hc, occurrences_cons hc, List.cons.injEq, and_iff_right rfl]
    exact ih

/-! ## Texts between separators -/

/-- The number of occurrences in several texts. -/
def occurrencesIn (target : List Char) : List (List Char) → Nat
  | [] => 0
  | text :: texts => occurrences target text + occurrencesIn target texts

theorem occurrencesIn_eq_zero_iff {target : List Char} {texts : List (List Char)} :
    occurrencesIn target texts = 0 ↔ ∀ text ∈ texts, occurrences target text = 0 := by
  induction texts with
  | nil => simp [occurrencesIn]
  | cons text texts ih => rw [occurrencesIn, Nat.add_eq_zero_iff, ih, List.forall_mem_cons]

/-- What stands in front of the first text stands in front of all of it. -/
theorem intercalate_append_cons (sep front text : List Char) (texts : List (List Char)) :
    sep.intercalate ((front ++ text) :: texts) = front ++ sep.intercalate (text :: texts) := by
  cases texts <;> simp [List.intercalate_cons_cons]

/-- Each text is replaced by itself, and each separator is an occurrence. -/
theorem replaceAll_intercalate (h : t ∉ ts) (texts : List (List Char)) :
    replaceAll (t :: ts) value ((t :: ts).intercalate texts) =
      value.intercalate (texts.map (replaceAll (t :: ts) value)) := by
  induction texts with
  | nil => rw [List.map_nil, List.intercalate_nil, List.intercalate_nil, replaceAll_nil]
  | cons text texts ih =>
    cases texts with
    | nil => simp
    | cons next rest =>
      rw [List.intercalate_cons_cons, List.append_assoc, List.cons_append,
        replaceAll_append_first h, ← List.cons_append, replaceAll_target (List.cons_ne_nil t ts),
        ih, List.map_cons, List.map_cons, List.map_cons, List.intercalate_cons_cons,
        List.append_assoc]

theorem occurrences_intercalate (h : t ∉ ts) {texts : List (List Char)} (hne : texts ≠ []) :
    occurrences (t :: ts) ((t :: ts).intercalate texts) + 1 =
      occurrencesIn (t :: ts) texts + texts.length := by
  induction texts with
  | nil => exact absurd rfl hne
  | cons text texts ih =>
    cases texts with
    | nil => simp [occurrencesIn]
    | cons next rest =>
      have hrest := ih (List.cons_ne_nil next rest)
      rw [List.intercalate_cons_cons, List.append_assoc, List.cons_append,
        occurrences_append_first h, ← List.cons_append, occurrences_target h]
      simp only [occurrencesIn, List.length_cons] at hrest ⊢
      omega

/-- The separators stay, and each occurrence in a text is exchanged for the value. -/
theorem length_intercalate_replaceAll (h : t ∉ ts) (value : List Char) (texts : List (List Char)) :
    (value.intercalate (texts.map (replaceAll (t :: ts) value))).length +
        (t :: ts).length * occurrencesIn (t :: ts) texts =
      (value.intercalate texts).length + value.length * occurrencesIn (t :: ts) texts := by
  induction texts with
  | nil => simp [occurrencesIn]
  | cons text texts ih =>
    have htext := length_replaceAll h value text
    cases texts with
    | nil => simpa [occurrencesIn] using htext
    | cons next rest =>
      simp only [List.map_cons, occurrencesIn, List.intercalate_cons_cons, List.length_append,
        Nat.mul_add] at ih htext ⊢
      omega

/-- Texts that have the lengths of others stand between the same separators in the same places. -/
theorem map_eq_self_of_intercalate_eq {f : List Char → List Char} {texts : List (List Char)}
    (hlength : ∀ text ∈ texts, (f text).length = text.length)
    (h : value.intercalate (texts.map f) = value.intercalate texts) :
    ∀ text ∈ texts, f text = text := by
  induction texts with
  | nil => simp
  | cons text texts ih =>
    obtain ⟨htext, htexts⟩ := List.forall_mem_cons.1 hlength
    cases texts with
    | nil => simpa using h
    | cons next rest =>
      simp only [List.map_cons, List.intercalate_cons_cons, List.append_assoc] at h ih
      obtain ⟨hsame, hback⟩ := List.append_inj h htext
      exact List.forall_mem_cons.2 ⟨hsame, ih htexts (List.append_cancel_left hback)⟩

/-- Between separators of the value, replacing changes nothing when an occurrence is replaced by
itself, or when no text holds one. -/
theorem intercalate_replaceAll_eq_iff (h : t ∉ ts) (texts : List (List Char)) :
    value.intercalate (texts.map (replaceAll (t :: ts) value)) = value.intercalate texts ↔
      value = t :: ts ∨ occurrencesIn (t :: ts) texts = 0 := by
  constructor
  · intro heq
    by_cases hzero : occurrencesIn (t :: ts) texts = 0
    · exact .inr hzero
    · -- all texts keep their lengths, and the one with an occurrence tells the value
      have hwhole := length_intercalate_replaceAll h value texts
      rw [heq, Nat.add_left_cancel_iff] at hwhole
      have hvalue := Nat.eq_of_mul_eq_mul_right (Nat.pos_of_ne_zero hzero) hwhole
      have hlength : ∀ text ∈ texts, (replaceAll (t :: ts) value text).length = text.length := by
        intro text _
        have htext := length_replaceAll h value text
        rw [hvalue] at htext
        omega
      obtain ⟨text, htext, hoccurs⟩ : ∃ text ∈ texts, occurrences (t :: ts) text ≠ 0 := by
        refine Classical.byContradiction fun hnone => hzero ?_
        exact occurrencesIn_eq_zero_iff.2 (by simpa using hnone)
      have hsame := map_eq_self_of_intercalate_eq hlength heq text htext
      exact .inl (((replaceAll_eq_self_iff h text).1 hsame).resolve_right hoccurs)
  · intro hvalue
    have hsame : ∀ text ∈ texts, replaceAll (t :: ts) value text = text := by
      intro text htext
      rw [replaceAll_eq_self_iff h]
      exact hvalue.imp_right fun hzero => occurrencesIn_eq_zero_iff.1 hzero text htext
    rw [List.map_congr_left hsame, List.map_id']

end First

end Catalog.Text
