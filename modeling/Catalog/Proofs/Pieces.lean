import Catalog.Text.Split

/-!
# Pieces of a cut text

The pieces that cutting at a character leaves hold no such character and nothing that the text did
not hold; a text without the character is one piece. Replacing finds the occurrences of a text from
left to right. A run of characters of a class ends where the class does.
-/

namespace Catalog.Text

theorem not_mem_of_mem_splitOn {sep : Char} {cs piece : List Char} (h : piece ∈ splitOn sep cs) :
    sep ∉ piece := by
  induction cs generalizing piece with
  | nil =>
    rw [splitOn, List.mem_singleton] at h
    rw [h]
    exact List.not_mem_nil
  | cons c cs ih =>
    unfold splitOn at h
    split at h
    · rcases List.mem_cons.1 h with rfl | h
      · exact List.not_mem_nil
      · exact ih h
    · next hc =>
      cases hp : splitOn sep cs with
      | nil => exact absurd hp (splitOn_ne_nil sep cs)
      | cons first rest =>
        rw [hp] at h ih
        rcases List.mem_cons.1 h with rfl | h
        · intro hm
          rcases List.mem_cons.1 hm with rfl | hm
          · exact hc rfl
          · exact ih List.mem_cons_self hm
        · exact ih (List.mem_cons_of_mem first h)

theorem mem_of_mem_splitOn {sep d : Char} {cs piece : List Char} (h : piece ∈ splitOn sep cs)
    (hd : d ∈ piece) : d ∈ cs := by
  induction cs generalizing piece with
  | nil =>
    rw [splitOn, List.mem_singleton] at h
    rwa [h] at hd
  | cons c cs ih =>
    unfold splitOn at h
    split at h
    · rcases List.mem_cons.1 h with rfl | h
      · cases hd
      · exact List.mem_cons_of_mem c (ih h hd)
    · cases hp : splitOn sep cs with
      | nil => exact absurd hp (splitOn_ne_nil sep cs)
      | cons first rest =>
        rw [hp] at h ih
        rcases List.mem_cons.1 h with rfl | h
        · rcases List.mem_cons.1 hd with rfl | hd
          · exact List.mem_cons_self
          · exact List.mem_cons_of_mem c (ih List.mem_cons_self hd)
        · exact List.mem_cons_of_mem c (ih (List.mem_cons_of_mem first h) hd)

theorem splitOn_of_not_mem {sep : Char} {cs : List Char} (h : sep ∉ cs) :
    splitOn sep cs = [cs] := by
  induction cs with
  | nil => rfl
  | cons c cs ih =>
    rw [List.mem_cons, not_or] at h
    rw [splitOn, if_neg (Ne.symm h.1), ih h.2]

theorem splitOn_joinWith {sep : Char} {pieces : List (List Char)} (hne : pieces ≠ [])
    (h : ∀ piece ∈ pieces, sep ∉ piece) : splitOn sep (joinWith sep pieces) = pieces := by
  induction pieces with
  | nil => exact absurd rfl hne
  | cons piece pieces ih =>
    obtain ⟨hpiece, hpieces⟩ := List.forall_mem_cons.1 h
    cases pieces with
    | nil => exact splitOn_of_not_mem hpiece
    | cons next rest =>
      rw [joinWith, splitOn_append_sep, splitOn_of_not_mem hpiece,
        ih (List.cons_ne_nil next rest) hpieces, List.singleton_append]
      exact List.cons_ne_nil next rest

theorem forall_mem_joinWith {sep : Char} {pieces : List (List Char)} {p : Char → Prop}
    (hsep : p sep) (h : ∀ piece ∈ pieces, ∀ c ∈ piece, p c) : ∀ c ∈ joinWith sep pieces, p c := by
  induction pieces with
  | nil => exact fun c hc => absurd hc List.not_mem_nil
  | cons piece pieces ih =>
    obtain ⟨hpiece, hpieces⟩ := List.forall_mem_cons.1 h
    cases pieces with
    | nil => exact hpiece
    | cons next rest =>
      intro c hc
      rw [joinWith] at hc
      · rcases List.mem_append.1 hc with hc | hc
        · exact hpiece c hc
        rcases List.mem_cons.1 hc with rfl | hc
        · exact hsep
        · exact ih hpieces c hc
      · exact List.cons_ne_nil next rest

/-- The pieces of a text between the occurrences of a character: there is at least one, none of them
holds the character, and with the character between them they are the text. -/
structure CutAt (sep : Char) (cs : List Char) (pieces : List (List Char)) : Prop where
  ne_nil : pieces ≠ []
  not_mem : ∀ piece ∈ pieces, sep ∉ piece
  joined : joinWith sep pieces = cs

theorem cutAt_iff {sep : Char} {cs : List Char} {pieces : List (List Char)} :
    CutAt sep cs pieces ↔ splitOn sep cs = pieces := by
  constructor
  · intro h
    rw [← h.joined, splitOn_joinWith h.ne_nil h.not_mem]
  · intro h
    subst h
    exact ⟨splitOn_ne_nil sep cs, fun _ => not_mem_of_mem_splitOn, joinWith_splitOn sep cs⟩

/-- The first cut of a text is in front of the separator that follows a text without one. -/
theorem splitFirst?_append {sep : Char} {before : List Char} (h : sep ∉ before)
    (after : List Char) : splitFirst? sep (before ++ sep :: after) = some (before, after) := by
  induction before with
  | nil => rw [List.nil_append, splitFirst?, if_pos rfl]
  | cons c cs ih =>
    rw [List.mem_cons, not_or] at h
    rw [List.cons_append, splitFirst?, if_neg (Ne.symm h.1), ih h.2, Option.map_some]

/-- What a first cut leaves: the text before it holds no separator. -/
theorem splitFirst?_eq_some {sep : Char} {cs before after : List Char}
    (h : splitFirst? sep cs = some (before, after)) :
    cs = before ++ sep :: after ∧ sep ∉ before := by
  induction cs generalizing before with
  | nil => rw [splitFirst?] at h; cases h
  | cons c cs ih =>
    rw [splitFirst?] at h
    split at h
    · next hc =>
      cases h
      exact ⟨by rw [hc, List.nil_append], List.not_mem_nil⟩
    · next hc =>
      obtain ⟨⟨b, a⟩, hcut, hpair⟩ := Option.map_eq_some_iff.1 h
      cases hpair
      obtain ⟨hcs, hnot⟩ := ih hcut
      refine ⟨by rw [hcs, List.cons_append], ?_⟩
      rw [List.mem_cons, not_or]
      exact ⟨Ne.symm hc, hnot⟩

/-- A text without the separator cannot be cut. -/
theorem splitFirst?_of_not_mem {sep : Char} {cs : List Char} (h : sep ∉ cs) :
    splitFirst? sep cs = none := by
  induction cs with
  | nil => rfl
  | cons c cs ih =>
    rw [List.mem_cons, not_or] at h
    rw [splitFirst?, if_neg (Ne.symm h.1), ih h.2, Option.map_none]

/-- A text that cannot be cut holds no separator. -/
theorem splitFirst?_eq_none {sep : Char} {cs : List Char} (h : splitFirst? sep cs = none) :
    sep ∉ cs := by
  induction cs with
  | nil => exact List.not_mem_nil
  | cons c cs ih =>
    rw [splitFirst?] at h
    split at h
    · cases h
    · next hc =>
      rw [List.mem_cons, not_or]
      exact ⟨Ne.symm hc, ih (Option.map_eq_none_iff.1 h)⟩

/-! ## Replacing -/

/-- A text without a lead is left exactly when the text starts with the lead. -/
theorem isSome_dropLead?_iff {lead cs : List Char} :
    (dropLead? lead cs).isSome = true ↔ lead <+: cs := by
  induction lead generalizing cs with
  | nil => simp [dropLead?]
  | cons l ls ih =>
    cases cs with
    | nil => simp [dropLead?]
    | cons c cs =>
      by_cases h : l = c
      · simp [dropLead?, h, ih]
      · simp [dropLead?, h, List.cons_prefix_cons]

theorem dropLead?_append (lead rest : List Char) : dropLead? lead (lead ++ rest) = some rest := by
  induction lead with
  | nil => rfl
  | cons l ls ih => simp [dropLead?, ih]

section Replacing

variable {target value word rest : List Char}

/-- A character that no occurrence starts at is kept. -/
theorem replaceAll_cons {c : Char} {cs : List Char} (hne : target ≠ [])
    (h : ¬ target <+: c :: cs) :
    replaceAll target value (c :: cs) = c :: replaceAll target value cs := by
  obtain ⟨t, ts, rfl⟩ := List.exists_cons_of_ne_nil hne
  rw [replaceAll]
  split
  · next rest hrest => exact absurd (isSome_dropLead?_iff.1 (by rw [hrest]; rfl)) h
  · rfl

/-- Nothing is replaced in a text that does not hold what is looked for. -/
theorem replaceAll_of_not_infix (hne : target ≠ []) (h : ¬ target <:+: word) :
    replaceAll target value word = word := by
  induction word with
  | nil =>
    obtain ⟨t, ts, rfl⟩ := List.exists_cons_of_ne_nil hne
    simp [replaceAll, dropLead?]
  | cons c cs ih =>
    rw [replaceAll_cons hne fun hpre => h hpre.isInfix,
      ih fun hin => h (hin.trans (List.suffix_cons c cs).isInfix)]

/-- An occurrence is replaced, if none starts before it. -/
theorem replaceAll_append (hne : target ≠ []) (h : ¬ target <:+: word ++ target.dropLast) :
    replaceAll target value (word ++ target ++ rest) =
      word ++ value ++ replaceAll target value rest := by
  induction word with
  | nil =>
    obtain ⟨t, ts, rfl⟩ := List.exists_cons_of_ne_nil hne
    rw [List.nil_append, replaceAll]
    split
    · next rest' hrest =>
      rw [dropLead?_append] at hrest
      cases hrest
      rfl
    · next hnone =>
      rw [dropLead?_append] at hnone
      cases hnone
  | cons c cs ih =>
    have hpos := List.length_pos_iff.2 hne
    rw [List.cons_append, List.cons_append, replaceAll_cons hne, ih]
    · rfl
    · exact fun hin => h (hin.trans (List.suffix_cons c _).isInfix)
    · -- an occurrence that starts here ends before the one that is replaced does
      intro hpre
      have hback : c :: cs ++ target.dropLast <+: c :: (cs ++ target ++ rest) := by
        rw [List.append_assoc, List.cons_append, List.cons_prefix_cons]
        refine ⟨rfl, (List.prefix_append_right_inj cs).2 ?_⟩
        exact (List.dropLast_prefix target).trans (List.prefix_append target rest)
      have hlength : target.length ≤ (c :: cs ++ target.dropLast).length := by
        simp only [List.length_append, List.length_cons, List.length_dropLast]
        omega
      exact h (List.prefix_of_prefix_length_le hpre hback hlength).isInfix

end Replacing

/-! ## Runs of characters -/

section Runs

variable {p : Char → Bool} {front back : List Char}

/-- A run ends where the first character that does not belong to it stands. -/
theorem takeWhile_append_stop (hfront : ∀ c ∈ front, p c = true)
    (hback : ∀ c ∈ back.head?, p c = false) : (front ++ back).takeWhile p = front := by
  rw [List.takeWhile_append_of_pos hfront]
  cases back with
  | nil => rw [List.takeWhile_nil, List.append_nil]
  | cons c cs =>
    rw [List.takeWhile_cons, hback c rfl]
    exact List.append_nil front

/-- Behind a run, the rest starts with the first character that does not belong to it. -/
theorem dropWhile_append_stop (hfront : ∀ c ∈ front, p c = true)
    (hback : ∀ c ∈ back.head?, p c = false) : (front ++ back).dropWhile p = back := by
  rw [List.dropWhile_append_of_pos hfront]
  cases back with
  | nil => rfl
  | cons c cs =>
    rw [List.dropWhile_cons, hback c rfl]
    rfl

theorem takeWhile_eq_self (hfront : ∀ c ∈ front, p c = true) : front.takeWhile p = front := by
  have h := takeWhile_append_stop hfront
    (show ∀ c ∈ ([] : List Char).head?, p c = false from fun _ hc => nomatch hc)
  rwa [List.append_nil] at h

theorem dropWhile_eq_nil (hfront : ∀ c ∈ front, p c = true) : front.dropWhile p = [] := by
  have h := dropWhile_append_stop hfront
    (show ∀ c ∈ ([] : List Char).head?, p c = false from fun _ hc => nomatch hc)
  rwa [List.append_nil] at h

end Runs

end Catalog.Text
