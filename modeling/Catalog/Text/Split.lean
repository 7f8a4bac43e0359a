/-!
# Cutting texts at a character

Splitting at every occurrence or at the first one, and replacing one text by another. Main
statement: joining the pieces with the separator gives the text back.
-/

namespace Catalog.Text

/-- The pieces of a text between the occurrences of `sep`; there is always at least one. -/
def splitOn (sep : Char) : List Char → List (List Char)
  | [] => [[]]
  | c :: cs =>
    if c = sep then [] :: splitOn sep cs
    else match splitOn sep cs with
      | [] => [[c]]
      | piece :: pieces => (c :: piece) :: pieces

theorem splitOn_ne_nil (sep : Char) (cs : List Char) : splitOn sep cs ≠ [] := by
  cases cs with
  | nil => simp [splitOn]
  | cons c cs => unfold splitOn; split <;> (try split) <;> simp

/-- A separator between two texts parts their pieces. -/
theorem splitOn_append_sep (sep : Char) (xs ys : List Char) :
    splitOn sep (xs ++ sep :: ys) = splitOn sep xs ++ splitOn sep ys := by
  induction xs with
  | nil => simp [splitOn]
  | cons x xs ih =>
    by_cases h : x = sep
    · simp [splitOn, h, ih]
    · simp only [List.cons_append, splitOn, h, if_false, ih]
      cases hs : splitOn sep xs with
      | nil => exact absurd hs (splitOn_ne_nil sep xs)
      | cons p ps => simp

/-- Join pieces with a character between them. -/
def joinWith (sep : Char) : List (List Char) → List Char
  | [] => []
  | [piece] => piece
  | piece :: pieces => piece ++ sep :: joinWith sep pieces

theorem joinWith_splitOn (sep : Char) (cs : List Char) : joinWith sep (splitOn sep cs) = cs := by
  induction cs with
  | nil => rfl
  | cons c cs ih =>
    unfold splitOn
    split
    · next h =>
      cases hp : splitOn sep cs with
      | nil => exact absurd hp (splitOn_ne_nil sep cs)
      | cons p ps => rw [hp] at ih; simp [joinWith, h, ih]
    · cases hp : splitOn sep cs with
      | nil => exact absurd hp (splitOn_ne_nil sep cs)
      | cons p ps =>
        rw [hp] at ih
        cases ps with
        | nil => simpa [joinWith] using ih
        | cons q qs => simpa [joinWith] using ih

/-- The text before the first `sep` and the text after it, if there is one. -/
def splitFirst? (sep : Char) : List Char → Option (List Char × List Char)
  | [] => none
  | c :: cs =>
    if c = sep then some ([], cs)
    else (splitFirst? sep cs).map fun (before, after) => (c :: before, after)

/-- Drop `lead` from the front of a text that starts with it. -/
def dropLead? : (lead cs : List Char) → Option (List Char)
  | [], cs => some cs
  | _ :: _, [] => none
  | l :: ls, c :: cs => if l = c then dropLead? ls cs else none

theorem length_of_dropLead? {lead cs rest : List Char} (h : dropLead? lead cs = some rest) :
    rest.length + lead.length = cs.length := by
  induction lead generalizing cs with
  | nil => simp_all [dropLead?]
  | cons l ls ih =>
    cases cs with
    | nil => simp [dropLead?] at h
    | cons c cs =>
      unfold dropLead? at h
      split at h
      · have := ih h; simp; omega
      · simp at h

/-- Without a lead that is not empty, a text is shorter. -/
theorem length_lt_of_dropLead? {lead cs rest : List Char} (hlead : lead ≠ [])
    (h : dropLead? lead cs = some rest) : rest.length < cs.length := by
  have hlength := length_of_dropLead? h
  have hpos := List.length_pos_iff.2 hlead
  omega

/-- Drop `tail` from the end of a text that ends with it. -/
def dropTail? (tail cs : List Char) : Option (List Char) :=
  (dropLead? tail.reverse cs.reverse).map List.reverse

/-- Replace every occurrence of the non-empty text `target`, from left to right, by `value`; the
inserted text is not looked at again. -/
def replaceAll (target value : List Char) (cs : List Char) : List Char :=
  match target with
  | [] => cs
  | t :: ts =>
    match h : dropLead? (t :: ts) cs with
    | some rest =>
      have : rest.length < cs.length := length_lt_of_dropLead? (List.cons_ne_nil t ts) h
      value ++ replaceAll (t :: ts) value rest
    | none =>
      match cs with
      | [] => []
      | c :: cs => c :: replaceAll (t :: ts) value cs
termination_by cs.length

end Catalog.Text
