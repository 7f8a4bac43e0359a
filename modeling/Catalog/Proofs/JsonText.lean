import Catalog.Json.Finite
import Catalog.Proofs.NumberText

/-!
# Values as text

The text that the printer writes for a value reads back as this value, with null in the place of the
doubles that JSON has no text for, if its integers have 64 bits and it is no deeper than the reader
goes.

## Key results

- `Json.readString?_quote`: texts are read back
- `Json.readValue?_renderChars`: values are read back, whatever follows them
- `Json.parse?_render`: the whole text of a value reads as this value
-/

namespace Catalog.Json

/-! ## Texts -/

private theorem hexValue?_lowerHexDigit :
    ∀ n < 16, Text.hexValue? (Text.lowerHexDigit n) = some n := by
  decide

theorem readHex4?_lowerHex {n : Nat} (hn : n < 16 ^ 4) (rest : List Char) :
    readHex4? (Text.lowerHex 4 n ++ rest) = some (n, rest) := by
  have hdigit : ∀ k, Text.hexValue? (Text.lowerHexDigit (n / k % 16)) = some (n / k % 16) :=
    fun k => hexValue?_lowerHexDigit _ (Nat.mod_lt _ (by decide))
  show (do
    let a ← Text.hexValue? (Text.lowerHexDigit (n / 4096 % 16))
    let b ← Text.hexValue? (Text.lowerHexDigit (n / 256 % 16))
    let c ← Text.hexValue? (Text.lowerHexDigit (n / 16 % 16))
    let d ← Text.hexValue? (Text.lowerHexDigit (n / 1 % 16))
    some (((a * 16 + b) * 16 + c) * 16 + d, rest)) = _
  rw [hdigit, hdigit, hdigit, hdigit]
  -- the digits in base sixteen make the number up again
  show some (_, rest) = _
  congr 2
  omega

/-- A control character is read from its escape. -/
theorem readUnicodeEscape?_lowerHex {c : Char} (hc : c.toNat < 0x20) (rest : List Char) :
    readUnicodeEscape? (Text.lowerHex 4 c.toNat ++ rest) = some (c, rest) := by
  -- a control character is no half of a pair
  have htrail : ¬ (0xDC00 ≤ c.toNat ∧ c.toNat ≤ 0xDFFF) := by omega
  have hlead : ¬ (0xD800 ≤ c.toNat ∧ c.toNat ≤ 0xDBFF) := by omega
  rw [readUnicodeEscape?, readHex4?_lowerHex (by omega), Option.bind_eq_bind, Option.bind_some]
  refine (if_neg htrail).trans ((if_neg hlead).trans ?_)
  rw [Char.ofNat_toNat]

/-- A code point in a text reads as its character. -/
theorem readString?_unicode (fuel : Nat) (acc : List Char) {cs rest : List Char} {c : Char}
    (h : readUnicodeEscape? cs = some (c, rest)) :
    readString? (fuel + 1) acc ('\\' :: 'u' :: cs) = readString? fuel (c :: acc) rest := by
  simp [readString?, h]

/-- A character of a text is read from what is written for it. -/
theorem readString?_escape (fuel : Nat) (acc : List Char) (c : Char) (rest : List Char) :
    readString? (fuel + 1) acc (escape c ++ rest) = readString? fuel (c :: acc) rest := by
  unfold escape
  split
  all_goals try rfl
  -- what has no short escape is written as it is, or by its code point
  next hquote hbackslash _ _ _ _ _ =>
    by_cases hc : c.toNat < 0x20
    · rw [if_pos hc]
      exact readString?_unicode fuel acc (readUnicodeEscape?_lowerHex hc rest)
    · rw [if_neg hc]
      exact (if_neg hquote).trans ((if_neg hbackslash).trans (if_neg hc))

/-- The characters of a text are read up to the closing quote. -/
theorem readString?_flatMap_escape (cs rest : List Char) {fuel : Nat} (hfuel : cs.length < fuel)
    (acc : List Char) :
    readString? fuel acc (cs.flatMap escape ++ '"' :: rest) =
      some (String.ofList (acc.reverse ++ cs), rest) := by
  obtain ⟨fuel, rfl⟩ := Nat.exists_eq_add_one_of_ne_zero (Nat.ne_zero_of_lt hfuel)
  induction cs generalizing fuel acc with
  | nil =>
    rw [List.flatMap_nil, List.nil_append, List.append_nil]
    exact if_pos rfl
  | cons c cs ih =>
    obtain ⟨fuel, rfl⟩ := Nat.exists_eq_add_one_of_ne_zero
      (show fuel ≠ 0 by rw [List.length_cons] at hfuel; omega)
    rw [List.flatMap_cons, List.append_assoc, readString?_escape,
      ih (c :: acc) fuel (by rw [List.length_cons] at hfuel; omega), List.reverse_cons,
      List.append_assoc, List.singleton_append]

theorem length_le_flatMap_escape (cs : List Char) : cs.length ≤ (cs.flatMap escape).length := by
  induction cs with
  | nil => exact Nat.le_refl 0
  | cons c cs ih =>
    have hpos : 0 < (escape c).length := by
      unfold escape
      split
      all_goals try decide
      split <;> simp
    rw [List.flatMap_cons, List.length_append, List.length_cons]
    omega

/-- A text is read back behind its opening quote. -/
theorem readString?_quote (s : String) (rest : List Char) :
    ∃ cs, quote s ++ rest = '"' :: cs ∧ readString? (cs.length + 1) [] cs = some (s, rest) := by
  refine ⟨s.toList.flatMap escape ++ '"' :: rest, ?_, ?_⟩
  · rw [quote, List.cons_append, List.append_assoc, List.singleton_append]
  · have hlength := length_le_flatMap_escape s.toList
    rw [readString?_flatMap_escape _ _ (by rw [List.length_append]; omega), List.reverse_nil,
      List.nil_append, String.ofList_toList]

/-! ## Values -/

mutual

/-- A value that the reader takes: no more than `depth` containers stand inside each other, and
integers have 64 bits. -/
def Fits : Json → (depth : Nat) → Prop
  | .number (.int n), _ => (JsonNumber.int n).Readable
  | .array items, depth => 0 < depth ∧ ItemsFit items (depth - 1)
  | .object fields, depth => 0 < depth ∧ FieldsFit fields (depth - 1)
  | .number (.double _), _ => True
  | .null, _ => True
  | .bool _, _ => True
  | .string _, _ => True

/-- The same of the items of an array. -/
def ItemsFit : List Json → (depth : Nat) → Prop
  | [], _ => True
  | item :: items, depth => Fits item depth ∧ ItemsFit items depth

/-- The same of the fields of an object. -/
def FieldsFit : Fields → (depth : Nat) → Prop
  | [], _ => True
  | (_, value) :: fields, depth => Fits value depth ∧ FieldsFit fields depth

end

theorem skipSpace_cons {c : Char} (hc : isSpace c = false) (cs : List Char) :
    skipSpace (c :: cs) = c :: cs := by
  rw [skipSpace, List.dropWhile_cons, hc]
  rfl

/-- Characters that can stand behind a value. -/
theorem endsNumber_cons {c : Char} (hc : c = ',' ∨ c = ']' ∨ c = '\x7d') (cs : List Char) :
    EndsNumber (c :: cs) := by
  rintro d ⟨⟩
  rcases hc with rfl | rfl | rfl <;> decide

theorem ne_of_isAsciiDigit {c d : Char} (hc : Text.isAsciiDigit c = true)
    (hd : Text.isAsciiDigit d = false) : c ≠ d := by
  rintro rfl
  rw [hc] at hd
  cases hd

theorem isSpace_of_isAsciiDigit {c : Char} (hc : Text.isAsciiDigit c = true) :
    isSpace c = false := by
  simp only [isSpace, Bool.or_eq_false_iff, beq_eq_false_iff_ne]
  exact ⟨⟨⟨ne_of_isAsciiDigit hc rfl, ne_of_isAsciiDigit hc rfl⟩, ne_of_isAsciiDigit hc rfl⟩,
    ne_of_isAsciiDigit hc rfl⟩

/-- A digit has no other meaning to the reader of values than to start a number. -/
theorem readValue?_digit {c : Char} (hc : Text.isAsciiDigit c = true) (fuel depth : Nat)
    (cs : List Char) :
    readValue? (fuel + 1) depth (c :: cs) =
      (readNumber? false (c :: cs)).map fun (n, rest) => (.number n, rest) := by
  rw [readValue?, skipSpace_cons (isSpace_of_isAsciiDigit hc)]
  split
  case h_8 => rfl
  -- every other case asks for a character that is no digit
  all_goals
    next heq =>
      exact absurd (List.cons.inj heq).1 (ne_of_isAsciiDigit hc rfl)

/-- A number is read back, whatever ends it. -/
theorem readValue?_number {n : JsonNumber} (h : n.Readable) (fuel depth : Nat) {rest : List Char}
    (hrest : EndsNumber rest) :
    readValue? (fuel + 1) depth (n.render ++ rest) = some (.number n, rest) := by
  obtain ⟨negative, body, hrender, hread⟩ := JsonNumber.readNumber?_render h hrest
  cases negative with
  | true =>
    rw [if_pos rfl] at hrender
    rw [hrender]
    show (readNumber? true (body ++ rest)).map _ = _
    rw [hread]
    rfl
  | false =>
    -- without a sign, the digit in front leads to the reader of numbers
    rw [if_neg Bool.false_ne_true] at hrender
    obtain ⟨c, cs, hcs, hc⟩ := exists_digit_of_readNumber? hread
    rw [hrender, hcs, readValue?_digit hc, ← hcs, hread]
    rfl

/-- The text of a value starts with no blank and with no closing bracket. -/
theorem exists_renderChars_eq_cons {j : Json} {depth : Nat} (h : Fits j depth) :
    ∃ c cs, renderChars j = c :: cs ∧ isSpace c = false ∧ c ≠ ']' := by
  have hnumber : ∀ n : JsonNumber, n.Readable →
      ∃ c cs, n.render = c :: cs ∧ isSpace c = false ∧ c ≠ ']' := by
    intro n hn
    obtain ⟨negative, body, hrender, hread⟩ :=
      JsonNumber.readNumber?_render hn (show EndsNumber [] from fun _ hc => nomatch hc)
    cases negative with
    | true => exact ⟨'-', body, hrender, rfl, by decide⟩
    | false =>
      obtain ⟨c, cs, hcs, hc⟩ := exists_digit_of_readNumber? hread
      rw [List.append_nil] at hcs
      exact ⟨c, cs, hrender.trans hcs, isSpace_of_isAsciiDigit hc, ne_of_isAsciiDigit hc rfl⟩
  cases j with
  | null => exact ⟨_, _, rfl, rfl, by decide⟩
  | bool b => cases b <;> exact ⟨_, _, rfl, rfl, by decide⟩
  | string s => exact ⟨_, _, rfl, rfl, by decide⟩
  | array items => exact ⟨_, _, rfl, rfl, by decide⟩
  | object fields => exact ⟨_, _, rfl, rfl, by decide⟩
  | number n =>
    cases n with
    | int n => exact hnumber (.int n) h
    | double x =>
      by_cases hx : x.isFinite = true
      · rw [renderChars]
        exact hnumber (.double x) hx
      · rw [renderChars, JsonNumber.render, if_neg hx]
        exact ⟨_, _, rfl, rfl, by decide⟩

theorem exists_renderItems_eq_cons {item : Json} {items : List Json} {depth : Nat}
    (h : ItemsFit (item :: items) depth) :
    ∃ c cs, renderItems (item :: items) = c :: cs ∧ isSpace c = false ∧ c ≠ ']' := by
  obtain ⟨c, cs, hcs, hc⟩ := exists_renderChars_eq_cons h.1
  cases items with
  | nil => exact ⟨c, cs, hcs, hc⟩
  | cons next items =>
    refine ⟨c, cs ++ ',' :: renderItems (next :: items), ?_, hc⟩
    show renderChars item ++ _ = _
    rw [hcs, List.cons_append]

theorem exists_renderFields_eq_cons (key : String) (value : Json) (fields : Fields) :
    ∃ cs, renderFields ((key, value) :: fields) = '"' :: cs := by
  cases fields <;> exact ⟨_, rfl⟩

section Fields

variable {fuel depth : Nat} {acc : Fields} {key : String} {cs rest : List Char} {value : Json}

/-- The reader of fields reads a name and a value, and ends with the object. -/
theorem readFields?_last (hread : readValue? fuel depth cs = some (value, '\x7d' :: rest)) :
    readFields? (fuel + 1) depth acc (quote key ++ ':' :: cs) =
      some (.object ((key, value) :: acc).reverse, rest) := by
  obtain ⟨ks, hks, hkey⟩ := readString?_quote key (':' :: cs)
  rw [hks, readFields?, skipSpace_cons rfl]
  simp only [hkey, skipSpace_cons (show isSpace ':' = false from rfl), hread,
    skipSpace_cons (show isSpace '\x7d' = false from rfl)]

/-- Behind a comma, it goes on with the next field. -/
theorem readFields?_next (hread : readValue? fuel depth cs = some (value, ',' :: rest)) :
    readFields? (fuel + 1) depth acc (quote key ++ ':' :: cs) =
      readFields? fuel depth ((key, value) :: acc) rest := by
  obtain ⟨ks, hks, hkey⟩ := readString?_quote key (':' :: cs)
  rw [hks, readFields?, skipSpace_cons rfl]
  simp only [hkey, skipSpace_cons (show isSpace ':' = false from rfl), hread,
    skipSpace_cons (show isSpace ',' = false from rfl)]

end Fields

mutual

/-- The text of a value reads as this value, whatever follows it. -/
theorem readValue?_renderChars : ∀ (fuel : Nat) (j : Json) (depth : Nat), Fits j depth →
    2 * (renderChars j).length ≤ fuel → ∀ rest, EndsNumber rest →
    readValue? fuel depth (renderChars j ++ rest) = some (j.finite, rest)
  -- by induction on the fuel, of which every text leaves some
  | 0, j, _, h, hfuel, _, _ => by
    obtain ⟨c, cs, hcs, -⟩ := exists_renderChars_eq_cons h
    rw [hcs, List.length_cons] at hfuel
    omega
  | _ + 1, .null, _, _, _, _, _ => rfl
  | _ + 1, .bool true, _, _, _, _, _ => rfl
  | _ + 1, .bool false, _, _, _, _, _ => rfl
  | fuel + 1, .number (.int n), depth, h, _, rest, hrest => by
    rw [renderChars]
    exact readValue?_number (show (JsonNumber.int n).Readable from h) fuel depth hrest
  | fuel + 1, .number (.double x), depth, h, _, rest, hrest => by
    by_cases hx : x.isFinite = true
    · rw [finite, if_pos hx, renderChars]
      exact readValue?_number (show (JsonNumber.double x).Readable from hx) fuel depth hrest
    · rw [finite, if_neg hx, renderChars, JsonNumber.render, if_neg hx]
      rfl
  | fuel + 1, .string s, depth, _, _, rest, _ => by
    obtain ⟨cs, hcs, hread⟩ := readString?_quote s rest
    rw [renderChars, hcs]
    show (readString? (cs.length + 1) [] cs).map _ = _
    rw [hread]
    rfl
  | fuel + 1, .array [], depth, h, _, rest, _ => by
    show (if depth = 0 then none else some (Json.array [], rest)) = _
    rw [if_neg (Nat.ne_of_gt h.1)]
    rfl
  | fuel + 1, .array (item :: items), depth, h, hfuel, rest, _ => by
    have htext : renderChars (.array (item :: items)) ++ rest =
        '[' :: (renderItems (item :: items) ++ ']' :: rest) := by
      rw [renderChars, List.cons_append, List.append_assoc, List.singleton_append]
    rw [renderChars, List.length_cons, List.length_append] at hfuel
    have hread := readItems?_renderItems fuel item items (depth - 1) h.2 (by omega) [] rest
    -- the array is not taken for an empty one
    obtain ⟨c, cs, hcs, hspace, hclose⟩ := exists_renderItems_eq_cons h.2
    rw [hcs, List.cons_append] at htext hread
    rw [htext]
    show (if depth = 0 then none else match skipSpace (c :: (cs ++ ']' :: rest)) with
      | ']' :: rest => some (.array [], rest)
      | rest => readItems? fuel (depth - 1) [] rest) = _
    rw [if_neg (Nat.ne_of_gt h.1), skipSpace_cons hspace]
    split
    · next heq => exact absurd (List.cons.inj heq).1 hclose
    · exact hread
  | fuel + 1, .object [], depth, h, _, rest, _ => by
    show (if depth = 0 then none else some (Json.object [], rest)) = _
    rw [if_neg (Nat.ne_of_gt h.1)]
    rfl
  | fuel + 1, .object ((key, value) :: fields), depth, h, hfuel, rest, _ => by
    have htext : renderChars (.object ((key, value) :: fields)) ++ rest =
        '\x7b' :: (renderFields ((key, value) :: fields) ++ '\x7d' :: rest) := by
      rw [renderChars, List.cons_append, List.append_assoc, List.singleton_append]
    rw [renderChars, List.length_cons, List.length_append] at hfuel
    have hread := readFields?_renderFields fuel key value fields (depth - 1) h.2 (by omega) [] rest
    obtain ⟨cs, hcs⟩ := exists_renderFields_eq_cons key value fields
    rw [hcs, List.cons_append] at htext hread
    rw [htext]
    show (if depth = 0 then none else readFields? fuel (depth - 1) [] _) = _
    rw [if_neg (Nat.ne_of_gt h.1)]
    exact hread

/-- The texts of items read as these items behind those read before. -/
theorem readItems?_renderItems : ∀ (fuel : Nat) (item : Json) (items : List Json) (depth : Nat),
    ItemsFit (item :: items) depth → 2 * (renderItems (item :: items)).length < fuel →
    ∀ (acc : List Json) (rest : List Char),
    readItems? fuel depth acc (renderItems (item :: items) ++ ']' :: rest) =
      some (.array (acc.reverse ++ finiteItems (item :: items)), rest)
  | 0, _, _, _, _, hfuel, _, _ => absurd hfuel (Nat.not_lt_zero _)
  | fuel + 1, item, [], depth, h, hfuel, acc, rest => by
    rw [renderItems] at hfuel ⊢
    have hread := readValue?_renderChars fuel item depth h.1 (by omega) (']' :: rest)
      (endsNumber_cons (.inr (.inl rfl)) rest)
    simp only [readItems?, hread]
    rw [skipSpace_cons rfl, List.reverse_cons]
    rfl
  | fuel + 1, item, next :: items, depth, h, hfuel, acc, rest => by
    have htext : renderItems (item :: next :: items) =
        renderChars item ++ ',' :: renderItems (next :: items) := rfl
    rw [htext, List.length_append, List.length_cons] at hfuel
    have hread := readValue?_renderChars fuel item depth h.1 (by omega)
      (',' :: (renderItems (next :: items) ++ ']' :: rest)) (endsNumber_cons (.inl rfl) _)
    have hrest := readItems?_renderItems fuel next items depth h.2 (by omega)
      (item.finite :: acc) rest
    rw [htext, List.append_assoc, List.cons_append]
    simp only [readItems?, hread]
    rw [skipSpace_cons rfl]
    show readItems? fuel depth (item.finite :: acc) _ = _
    rw [hrest, List.reverse_cons, List.append_assoc]
    rfl

/-- The texts of fields read as these fields behind those read before. -/
theorem readFields?_renderFields : ∀ (fuel : Nat) (key : String) (value : Json) (fields : Fields)
    (depth : Nat), FieldsFit ((key, value) :: fields) depth →
    2 * (renderFields ((key, value) :: fields)).length < fuel →
    ∀ (acc : Fields) (rest : List Char),
    readFields? fuel depth acc (renderFields ((key, value) :: fields) ++ '\x7d' :: rest) =
      some (.object (acc.reverse ++ finiteFields ((key, value) :: fields)), rest)
  | 0, _, _, _, _, _, hfuel, _, _ => absurd hfuel (Nat.not_lt_zero _)
  | fuel + 1, key, value, [], depth, h, hfuel, acc, rest => by
    have htext : renderFields [(key, value)] = quote key ++ ':' :: renderChars value := rfl
    rw [htext, List.length_append, List.length_cons] at hfuel
    have hread := readValue?_renderChars fuel value depth h.1 (by omega) ('\x7d' :: rest)
      (endsNumber_cons (.inr (.inr rfl)) rest)
    rw [htext, List.append_assoc, List.cons_append, readFields?_last hread, List.reverse_cons]
    rfl
  | fuel + 1, key, value, (next, value') :: fields, depth, h, hfuel, acc, rest => by
    have htext : renderFields ((key, value) :: (next, value') :: fields) =
        quote key ++ ':' :: (renderChars value ++ ',' :: renderFields ((next, value') :: fields)) :=
      rfl
    rw [htext, List.length_append, List.length_cons, List.length_append, List.length_cons] at hfuel
    have hread := readValue?_renderChars fuel value depth h.1 (by omega)
      (',' :: (renderFields ((next, value') :: fields) ++ '\x7d' :: rest))
      (endsNumber_cons (.inl rfl) _)
    have hrest := readFields?_renderFields fuel next value' fields depth h.2 (by omega)
      ((key, value.finite) :: acc) rest
    rw [htext, List.append_assoc, List.cons_append, List.append_assoc, List.cons_append,
      readFields?_next hread, hrest, List.reverse_cons, List.append_assoc]
    rfl

end

/-- The whole text of a value reads as this value. -/
theorem parse?_render {j : Json} (h : Fits j maxDepth) : parse? j.render = some j.finite := by
  have hread := readValue?_renderChars (2 * (renderChars j).length + 2) j maxDepth h (by omega) []
    fun _ hc => nomatch hc
  rw [List.append_nil] at hread
  simp only [parse?, render, String.toList_ofList, hread]
  rfl

end Catalog.Json
