import Catalog.Config.Environment
import Catalog.Proofs.IntegerFields
import Catalog.Proofs.Overlays
import Catalog.Proofs.Pieces

/-!
# Settings in the environment

A variable names a setting by the words between its double underscores, and the text of an integer
of 64 bits stands for the integer. Variables are taken in the order in which the process holds them:
what one of them sets stays, unless a later one tells something about the setting too.

## Key results

- `Environment.settingWords?_moduleVariable`: the setting that a variable of a module names
- `SettingText.value_of_integerText`: the values of texts of integers
- `Environment.at?_settings`: the setting of a variable that no later one overrides
-/

namespace Catalog

/-! ## Names of settings -/

/-- Nothing is trimmed of a text that neither starts nor ends with a blank. -/
theorem Text.trim_eq_self {cs : List Char} (hfirst : ∀ c ∈ cs.head?, isBlank c = false)
    (hlast : ∀ c ∈ cs.getLast?, isBlank c = false) : trim cs = cs := by
  have hstart : ∀ {ds : List Char}, (∀ c ∈ ds.head?, isBlank c = false) →
      ds.dropWhile isBlank = ds := by
    intro ds h
    cases ds with
    | nil => rfl
    | cons d ds => rw [List.dropWhile_cons, h d rfl]; rfl
  rw [trim, trimStart, hstart hfirst, trimEnd, hstart, List.reverse_reverse]
  rwa [List.head?_reverse]

namespace Environment

/-- A word of the name of a setting. -/
structure IsWord (word : List Char) : Prop where
  ne_nil : word ≠ []
  point : '.' ∉ word
  underscores : ¬ ['_', '_'] <:+: word

/-- The variable that is named by a module and by one of its settings. -/
def moduleVariable (module key : String) : String :=
  "APP__MODULES__" ++ module ++ "__" ++ key

/-- The name of a module in a variable does not end with an underscore, which would count as one of
the two behind it, and the name of a setting not with a blank. -/
structure NamesSetting (module key : String) : Prop where
  isWord : IsWord module.toList
  isWord_key : IsWord key.toList
  underscore : module.toList.getLast? ≠ some '_'
  blank : ∀ c ∈ key.toList.getLast?, Text.isBlank c = false

/-- A word in small letters. -/
def lower (word : String) : String :=
  String.ofList (Text.lowerAscii word.toList)

/-- No double underscore starts inside a word in front of another one. -/
theorem IsWord.not_infix_append {word : List Char} (h : IsWord word)
    (hlast : word.getLast? ≠ some '_') : ¬ ['_', '_'] <:+: word ++ ['_'] := by
  intro hin
  obtain ⟨front, back, heq⟩ := hin
  rcases List.eq_nil_or_concat back with rfl | ⟨back, c, rfl⟩
  · -- the word would end with an underscore
    have hword : front ++ ['_'] = word := by
      have hsplit : (front ++ ['_']) ++ ['_'] = word ++ ['_'] := by simpa using heq
      exact List.append_cancel_right hsplit
    rw [← hword] at hlast
    simp at hlast
  · have hword : front ++ ['_', '_'] ++ back = word := by
      rw [List.concat_eq_append, ← List.append_assoc] at heq
      exact (List.append_inj' heq rfl).1
    exact h.underscores ⟨front, back, hword⟩

namespace NamesSetting

variable {module key : String} (h : NamesSetting module key)

include h

/-- The double underscores between the words become points. -/
private theorem replaceAll_words :
    Text.replaceAll "__".toList ".".toList ("MODULES".toList ++ "__".toList ++
      (module.toList ++ "__".toList ++ key.toList)) =
      Text.joinWith '.' ["MODULES".toList, module.toList, key.toList] := by
  have hmodule : ¬ "__".toList <:+: module.toList ++ "__".toList.dropLast :=
    h.isWord.not_infix_append h.underscore
  have hkey : ¬ "__".toList <:+: key.toList := h.isWord_key.underscores
  rw [Text.replaceAll_append (by decide) (by decide), Text.replaceAll_append (by decide) hmodule,
    Text.replaceAll_of_not_infix (by decide) hkey]
  simp [Text.joinWith]

/-- The points between the words are the only ones. -/
private theorem splitOn_words :
    Text.splitOn '.' (Text.joinWith '.' ["MODULES".toList, module.toList, key.toList]) =
      ["MODULES".toList, module.toList, key.toList] := by
  apply Text.splitOn_joinWith (List.cons_ne_nil _ _)
  simp only [List.mem_cons, List.not_mem_nil, or_false, forall_eq_or_imp, forall_eq]
  exact ⟨by decide, h.isWord.point, h.isWord_key.point⟩

/-- Nothing is trimmed of a text that ends with the name of the setting. -/
private theorem trim_append {c : Char} (hc : Text.isBlank c = false) (front : List Char) :
    Text.trim (c :: front ++ key.toList) = c :: front ++ key.toList := by
  apply Text.trim_eq_self
  · intro d hd
    cases hd
    exact hc
  · intro d hd
    rw [List.getLast?_append_of_ne_nil _ h.isWord_key.ne_nil] at hd
    exact h.blank d hd

private theorem trim_moduleVariable :
    Text.trim (moduleVariable module key).toList =
      "APP__".toList ++ ("MODULES".toList ++ "__".toList ++
        (module.toList ++ "__".toList ++ key.toList)) := by
  have hname : (moduleVariable module key).toList =
      'A' :: ("PP__MODULES__".toList ++ module.toList ++ "__".toList) ++ key.toList := by
    simp [moduleVariable]
  rw [hname, h.trim_append (by decide)]
  simp

private theorem trim_words :
    Text.trim (Text.joinWith '.' ["MODULES".toList, module.toList, key.toList]) =
      Text.joinWith '.' ["MODULES".toList, module.toList, key.toList] := by
  have hjoin : Text.joinWith '.' ["MODULES".toList, module.toList, key.toList] =
      'M' :: ("ODULES.".toList ++ module.toList ++ ['.']) ++ key.toList := by
    simp [Text.joinWith]
  rw [hjoin]
  exact h.trim_append (by decide) _

end NamesSetting

theorem settingWords?_moduleVariable {module key : String} (h : NamesSetting module key) :
    settingWords? (moduleVariable module key) = some ["modules", lower module, lower key] := by
  have hlead : Text.sameIgnoringCase (("APP__".toList ++ ("MODULES".toList ++ "__".toList ++
      (module.toList ++ "__".toList ++ key.toList))).take settingLead.toList.length)
      settingLead.toList = true := by
    rw [List.take_left' (by decide)]
    decide
  simp only [settingWords?, h.trim_moduleVariable]
  rw [if_pos hlead, List.drop_left' (by decide), h.replaceAll_words, h.trim_words, h.splitOn_words]
  -- no word is empty
  have hmodule : module.toList.isEmpty = false := by simpa using h.isWord.ne_nil
  have hkey : key.toList.isEmpty = false := by simpa using h.isWord_key.ne_nil
  have hword : String.ofList (Text.lowerAscii "MODULES".toList) = "modules" := by decide
  simpa [lower, hmodule, hkey] using hword

theorem settingWords?_serverPort :
    settingWords? "APP__SERVER__PORT" = some ["server", "port"] := by decide +kernel

end Environment

/-! ## Values of texts -/

namespace SettingText

open Numeral

/-- Digits behind a plus sign are read as they are without it. -/
theorem readNat_plus (max : Nat) {ds : List Char} (hne : ds ≠ []) :
    readNat max ('+' :: ds) = readDigits max .tooLarge 0 ds := by
  rw [readNat]
  exact hne

/-- A word without quotation marks that is the text of an integer of 64 bits, with a sign or
without, is the integer. -/
theorem bareValue_of_integerText {word : List Char} {n : Int} (h : IntegerText word n)
    (hlow : -2 ^ 63 ≤ n) (hhigh : n < 2 ^ 64) : bareValue word = Json.int n := by
  have hnatural : ∀ {ds : List Char}, IsDigits ds → (Nat.ofDigitChars 10 ds 0 : Int) < 2 ^ 64 →
      readNat 0xFFFFFFFFFFFFFFFF word = readDigits 0xFFFFFFFFFFFFFFFF .tooLarge 0 ds →
      bareValue word = Json.int (Nat.ofDigitChars 10 ds 0) := by
    intro ds hds hbound hread
    have hvalue : (UInt64.ofNat (Nat.ofDigitChars 10 ds 0)).toNat = Nat.ofDigitChars 10 ds 0 :=
      UInt64.toNat_ofNat_of_lt (by rw [UInt64.size]; omega)
    rw [readDigits_eq_ok _ hds.2 (by omega)] at hread
    unfold bareValue readUInt64
    rw [hread]
    show Json.nat (UInt64.ofNat _).toNat = _
    rw [hvalue]
    rfl
  cases h with
  | plain h => exact hnatural h hhigh (readNat_of_digits _ h.1 h.2)
  | plus h => exact hnatural h hhigh (readNat_plus _ h.1)
  | @minus ds h =>
    -- a minus sign is no part of a natural number, so the word is read with its sign
    have hnat : readUInt64 ('-' :: ds) = .error .invalidDigit := rfl
    have hint : readInt64 ('-' :: ds) = .ok (Int64.ofInt (-(Nat.ofDigitChars 10 ds 0 : Int))) := by
      rw [readInt64_eq_ok_iff, Int64.toInt_ofInt_of_le (by omega) (by omega)]
      exact .minus h
    unfold bareValue
    simp only [hnat, hint]
    rw [Int64.toInt_ofInt_of_le (by omega) (by omega)]

/-- Characters that end a word without quotation marks, or that other values start with. -/
def isStop (c : Char) : Bool :=
  isSeparator c || Text.isBlank c || isSpace c || ['t', 'f', '"', '\''].contains c

/-- Digits and signs are none of them. -/
theorem isStop_of_mem_integerText {word : List Char} {n : Int} (h : IntegerText word n) {c : Char}
    (hc : c ∈ word) : isStop c = false := by
  have hdigits : ∀ {ds}, IsDigits ds → c ∈ ds → isStop c = false := by
    intro ds hds hc
    have hrange := (Text.isAsciiDigit_iff c).1 (hds.2 c hc)
    have hall : ∀ k ∈ List.range 10, isStop (Char.ofNat (48 + k)) = false := by decide
    have hdigit := hall (c.toNat - 48) (List.mem_range.2 (by omega))
    rwa [show 48 + (c.toNat - 48) = c.toNat by omega, Char.ofNat_toNat] at hdigit
  cases h with
  | plain h => exact hdigits h hc
  | plus h =>
    rcases List.mem_cons.1 hc with rfl | hc
    · decide
    · exact hdigits h hc
  | minus h =>
    rcases List.mem_cons.1 hc with rfl | hc
    · decide
    · exact hdigits h hc

theorem of_isStop_eq_false {c : Char} (h : isStop c = false) :
    isSeparator c = false ∧ Text.isBlank c = false ∧ isSpace c = false := by
  simp only [isStop, Bool.or_eq_false_iff] at h
  exact ⟨h.1.1.1, h.1.1.2, h.1.2⟩

/-- A word without any of these characters is read to its end. -/
private theorem readValue?_of_not_isStop (fuel : Nat) {word : List Char} (hne : word ≠ [])
    (hstop : ∀ c ∈ word, isStop c = false) :
    readValue? (fuel + 1) word = some (bareValue word, []) := by
  have hplain := fun c hc => of_isStop_eq_false (hstop c hc)
  have hspan : word.span (fun c => !isSeparator c) = (word, []) := by
    have hword : ∀ c ∈ word, (!isSeparator c) = true := fun c hc => by
      rw [(hplain c hc).1]
      rfl
    rw [List.span_eq_takeWhile_dropWhile, Text.takeWhile_eq_self hword, Text.dropWhile_eq_nil hword]
  have htrim : Text.trim word = word := by
    apply Text.trim_eq_self
    · exact fun c hc => (hplain c (List.mem_of_mem_head? hc)).2.1
    · exact fun c hc => (hplain c (List.mem_of_getLast? hc)).2.1
  obtain ⟨c, cs, rfl⟩ := List.exists_cons_of_ne_nil hne
  have hskip : skipSpace (c :: cs) = c :: cs := by
    rw [skipSpace, List.dropWhile_cons, (hplain c List.mem_cons_self).2.2]
    rfl
  -- no other value starts with the first character
  have hother : ∀ d, isStop d = true → c ≠ d := by
    rintro d hd rfl
    rw [hstop c List.mem_cons_self] at hd
    cases hd
  have htrue : Text.dropLead? "true".toList (c :: cs) = none := if_neg (hother 't' (by decide)).symm
  have hfalse : Text.dropLead? "false".toList (c :: cs) = none :=
    if_neg (hother 'f' (by decide)).symm
  rw [readValue?]
  simp only [hskip, htrue, hfalse]
  split
  · next heq => cases heq
  · next _ heq _ => cases heq
  · next heq _ _ => exact absurd (List.cons.inj heq).1 (hother _ (by decide))
  · next heq _ _ => exact absurd (List.cons.inj heq).1 (hother _ (by decide))
  · next heq _ _ => exact absurd (List.cons.inj heq).1 (hother _ (by decide))
  · next heq _ _ => exact absurd (List.cons.inj heq).1 (hother _ (by decide))
  · next heq _ _ => exact absurd (List.cons.inj heq).1 (hother _ (by decide))
  · rw [hspan]
    simp only [htrim, Option.map_some]
    rfl

/-- A text without any of these characters is one word. -/
theorem value_of_not_isStop {s : String} (hne : s.toList ≠ [])
    (hstop : ∀ c ∈ s.toList, isStop c = false) : value s = bareValue s.toList := by
  have hread := readValue?_of_not_isStop (2 * s.toList.length + 1) hne hstop
  unfold value
  rw [hread]

/-- The text of an integer of 64 bits stands for the integer. -/
theorem value_of_integerText {s : String} {n : Int} (h : IntegerText s.toList n)
    (hlow : -2 ^ 63 ≤ n) (hhigh : n < 2 ^ 64) : value s = Json.int n := by
  have hne : s.toList ≠ [] := by
    intro hnil
    rw [hnil] at h
    cases h with
    | plain h => exact h.1 rfl
  rw [value_of_not_isStop hne fun c hc => isStop_of_mem_integerText h hc]
  exact bareValue_of_integerText h hlow hhigh

/-! ## Maps in texts -/

/-- A list in brackets is read as a list. -/
private theorem exists_array_of_readItems? {fuel : Nat} {acc : List Json} {cs rest : List Char}
    {j : Json} (h : readItems? fuel acc cs = some (j, rest)) : ∃ items, j = .array items := by
  induction fuel generalizing acc cs with
  | zero => cases h
  | succ fuel ih =>
    by_cases hend : ∃ behind, cs = ']' :: behind
    · obtain ⟨behind, rfl⟩ := hend
      cases h
      exact ⟨_, rfl⟩
    · rw [readItems?] at h
      · split at h
        · cases h
          exact ⟨_, rfl⟩
        · exact ih h
        · cases h
      · exact fun behind hcs => hend ⟨behind, hcs⟩

private theorem ordered_bareValue (word : List Char) : (bareValue word).Ordered := by
  apply Json.Ordered.leaf
  intro fields
  unfold bareValue
  split <;> exact nofun

/-- Maps in texts are read in the order of their keys. -/
theorem ordered_read (fuel : Nat) :
    (∀ {cs rest : List Char} {j : Json}, readValue? fuel cs = some (j, rest) → j.Ordered) ∧
    ∀ {acc : Json.Fields} {cs rest : List Char} {j : Json}, (Json.object acc).Ordered →
      readEntries? fuel acc cs = some (j, rest) → j.Ordered := by
  induction fuel with
  | zero => exact ⟨nofun, nofun⟩
  | succ fuel ih =>
    obtain ⟨ihvalue, ihentries⟩ := ih
    constructor
    · intro cs rest j h
      rw [readValue?] at h
      simp only at h
      obtain ⟨⟨value, behind⟩, hfound, hpair⟩ := Option.map_eq_some_iff.1 h
      cases hpair
      split at hfound
      · cases hfound; exact .leaf nofun
      · cases hfound; exact .leaf nofun
      · exact ihentries .empty hfound
      · obtain ⟨items, rfl⟩ := exists_array_of_readItems? hfound
        exact .leaf nofun
      · obtain ⟨⟨text, behind'⟩, -, hpair⟩ := Option.map_eq_some_iff.1 hfound
        cases hpair
        exact .leaf nofun
      · cases hfound; exact .leaf nofun
      · cases hfound
      · cases hfound; exact ordered_bareValue _
    · intro acc cs rest j hacc h
      by_cases hend : ∃ behind, cs = '\x7d' :: behind
      · obtain ⟨behind, rfl⟩ := hend
        cases h
        exact hacc
      · rw [readEntries?] at h
        · split at h
          · split at h
            · next hvalue =>
              cases h
              exact hacc.insert _ (ihvalue hvalue)
            · next hvalue => exact ihentries (hacc.insert _ (ihvalue hvalue)) h
            · cases h
          · cases h
        · exact fun behind hcs => hend ⟨behind, hcs⟩

/-- The value of a text is ordered. -/
theorem ordered_value (s : String) : (value s).Ordered := by
  unfold value
  split
  · next h => exact (ordered_read _).1 h
  · exact .leaf nofun

end SettingText

/-! ## The settings of an environment -/

namespace Environment

variable {env : Environment}

/-- A variable tells something about a setting: it sets the setting, or a value below it, or one above
it that does not omit the setting. -/
def Overrides (v : String × String) (path : List String) : Prop :=
  ∃ words ∈ settingWords? v.1, (Json.nested words (SettingText.value v.2)).omits path = false

instance (v : String × String) (path : List String) : Decidable (Overrides v path) :=
  inferInstanceAs (Decidable (∃ words ∈ settingWords? v.1, _))

/-- A variable has this text, and no later one in the environment overrides its setting. -/
def Prevails (env : Environment) (name text : String) (path : List String) : Prop :=
  ∃ before after, env.entries = before ++ (name, text) :: after ∧
    ∀ later ∈ after, ¬ Overrides later path

/-- What one variable adds to the settings of those before it. -/
private def add (acc : Json) (v : String × String) : Json :=
  match settingWords? v.1 with
  | some words => acc.overlay (Json.nested words (SettingText.value v.2))
  | none => acc

private theorem ordered_foldl_add {acc : Json} (h : acc.Ordered) (vars : List (String × String)) :
    (vars.foldl add acc).Ordered := by
  induction vars generalizing acc with
  | nil => exact h
  | cons first rest ih =>
    rw [List.foldl_cons]
    apply ih
    unfold add
    split
    · next words _ => exact h.overlay ((SettingText.ordered_value _).nested words)
    · exact h

theorem ordered_settings (env : Environment) : env.settings.Ordered :=
  ordered_foldl_add .empty env.entries

/-- Variables that do not override a setting leave it alone. -/
private theorem at?_foldl_add {vars : List (String × String)} {path : List String}
    (h : ∀ v ∈ vars, ¬ Overrides v path) (acc : Json) :
    (vars.foldl add acc).at? path = acc.at? path := by
  induction vars generalizing acc with
  | nil => rfl
  | cons first rest ih =>
    rw [List.foldl_cons, ih fun v hv => h v (List.mem_cons_of_mem _ hv)]
    unfold add
    split
    · next words hwords =>
      have homits : (Json.nested words (SettingText.value first.2)).omits path = true := by
        by_contra hnot
        exact h first List.mem_cons_self ⟨words, hwords, by simpa using hnot⟩
      exact Json.at?_overlay_of_omits ((SettingText.ordered_value _).nested words) homits acc
    · rfl

/-- A variable that no later one overrides sets the number that its text stands for. -/
theorem at?_settings {name text : String} {path : List String} {n : JsonNumber}
    (h : env.Prevails name text path) (hname : settingWords? name = some path)
    (hvalue : SettingText.value text = .number n) : env.settings.at? path = some (.number n) := by
  obtain ⟨before, after, hsplit, hlater⟩ := h
  have hsettings : env.settings = env.entries.foldl add (.object []) := rfl
  rw [hsettings, hsplit, List.foldl_append, List.foldl_cons, at?_foldl_add hlater]
  unfold add
  simp only [hname, hvalue]
  have hordered : (Json.number n).Ordered := .leaf nofun
  exact Json.at?_overlay_of_number (hordered.nested path) (Json.at?_nested path _)

end Environment

end Catalog
