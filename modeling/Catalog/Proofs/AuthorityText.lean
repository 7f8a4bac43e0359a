import Catalog.Proofs.HostText
import Catalog.Proofs.ResolvedPaths
import Catalog.Proofs.SegmentAddress

/-!
# Authorities read back

What stands between the two slashes and the path of an address: user information, host and port.
They are written in a form in which each of them is found again, and read as it was.

## Key results

- `Url.readUserInfo?_append`: user information is found by the sign behind it
- `Url.HostText.spanHost_eq`: a host is found by what follows it
- `Url.readPort?_toDigits`: a port is read back
- `Url.SettledAuthority.readAuthority_eq`: so is all of an authority with its path
-/

namespace Catalog

namespace Url

/-! ## User information -/

/-- A character of user information that is not encoded. -/
def InfoChar (c : Char) : Prop :=
  c.toNat < 0x80 ∧ Percent.inUserInfo c = false

/-- User information as it is written: nothing, a name, or a password with a name in front. -/
inductive InfoText : List Char → Prop where
  | nothing : InfoText []
  | user {user : List Char} (huser : ∀ c ∈ user, InfoChar c) : InfoText user
  | password {user password : List Char} (huser : ∀ c ∈ user, InfoChar c)
      (hpassword : ∀ c ∈ password, InfoChar c) (hne : password ≠ []) :
      InfoText (user ++ ':' :: password)

/-- Encode user information, name and password apart. -/
def infoOf (info : List Char) : List Char :=
  match Text.splitFirst? ':' info with
  | some (user, password) =>
    Percent.encode Percent.inUserInfo user ++
      if password.isEmpty then [] else ':' :: Percent.encode Percent.inUserInfo password
  | none => Percent.encode Percent.inUserInfo info

/-- Encoded user information is not encoded again. -/
theorem InfoText.infoOf_eq {info : List Char} (h : InfoText info) : infoOf info = info := by
  have hcolon : ∀ {user : List Char}, (∀ c ∈ user, InfoChar c) → ':' ∉ user := fun huser hmem =>
    absurd (huser ':' hmem).2 (by decide)
  unfold infoOf
  cases h with
  | nothing => rfl
  | user huser =>
    split
    · next user password hsplit =>
      have hinfo := (Text.splitFirst?_eq_some hsplit).1
      exact absurd (hinfo ▸ List.mem_append_right user List.mem_cons_self) (hcolon huser)
    · exact Percent.encode_eq_self_iff.2 huser
  | @password user password huser hpassword hne =>
    rw [Text.splitFirst?_append (hcolon huser)]
    simp [Percent.encode_eq_self_iff.2 huser, Percent.encode_eq_self_iff.2 hpassword, hne]

/-- User information with the sign behind it, if there is any. -/
def closed (info : List Char) : List Char :=
  if info.isEmpty then [] else info ++ ['@']

/-- A character that is kept in an address and ends no authority. -/
def AuthorityChar (c : Char) : Prop :=
  0x20 < c.toNat ∧ c ∉ ['/', '\\', '?', '#']

theorem AuthorityChar.not_end {c : Char} (h : AuthorityChar c) (kind : SchemeKind) :
    (isSlash kind c || c == '?' || c == '#') = false := by
  have hc := h.2
  simp only [List.mem_cons, List.not_mem_nil, or_false, not_or] at hc
  simp [isSlash, hc]

theorem InfoChar.authorityChar {c : Char} (h : InfoChar c) : AuthorityChar c := by
  have hpath := h.2
  rw [Percent.inUserInfo, Bool.or_eq_false_iff] at hpath
  refine ⟨(visible_of_not_inPath h.1 hpath.1).1, fun hmem => ?_⟩
  have hreserved : ∀ c ∈ ['/', '\\', '?', '#'], Percent.inUserInfo c = true :=
      List.all_iff_forall_prop.1 (by decide)
  exact absurd (h.2.symm.trans (hreserved c hmem)) Bool.false_ne_true

theorem InfoText.authorityChar {info : List Char} (h : InfoText info) :
    ∀ c ∈ closed info, AuthorityChar c := by
  have hinfo : ∀ c ∈ info, AuthorityChar c := by
    cases h with
    | nothing => exact fun c hc => absurd hc List.not_mem_nil
    | user huser => exact fun c hc => (huser c hc).authorityChar
    | password huser hpassword _ =>
      refine List.forall_mem_append.2 ⟨fun c hc => (huser c hc).authorityChar,
        List.forall_mem_cons.2 ⟨⟨by decide, by decide⟩, fun c hc => (hpassword c hc).authorityChar⟩⟩
  unfold closed
  split
  · exact fun c hc => absurd hc List.not_mem_nil
  · exact List.forall_mem_append.2 ⟨hinfo, List.forall_mem_singleton.2 ⟨by decide, by decide⟩⟩

theorem isEnd_of_mem (kind : SchemeKind) {c : Char} (h : c ∈ ['/', '?', '#']) :
    (isSlash kind c || c == '?' || c == '#') = true := by
  simp only [List.mem_cons, List.not_mem_nil, or_false] at h
  rcases h with rfl | rfl | rfl
  · simp [isSlash]
  · simp
  · simp

/-- User information is found by the sign behind it. -/
theorem readUserInfo?_append (kind : SchemeKind) {info text rest : List Char} (hinfo : InfoText info)
    (htext : ∀ c ∈ text, AuthorityChar c ∧ c ≠ '@') (hrest : EndsAuthority rest) :
    readUserInfo? kind (closed info ++ text ++ rest) = some (closed info, text ++ rest) := by
  have hauthority : (closed info ++ text ++ rest).takeWhile
      (fun c => !(isSlash kind c || c == '?' || c == '#')) = closed info ++ text := by
    refine Text.takeWhile_append_stop (fun c hc => ?_) fun c hc => ?_
    · rw [Bool.not_eq_true']
      cases List.mem_append.1 hc with
      | inl h => exact (hinfo.authorityChar c h).not_end kind
      | inr h => exact (htext c h).1.not_end kind
    · rw [Bool.not_eq_false']
      exact isEnd_of_mem kind (hrest c hc)
  have hsign : '@' ∉ text.reverse := fun hmem => (htext '@' (List.mem_reverse.1 hmem)).2 rfl
  unfold readUserInfo?
  simp only [hauthority, List.drop_left]
  by_cases hne : info = []
  · subst hne
    have hsplit : Text.splitFirst? '@' (closed [] ++ text).reverse = none :=
      Text.splitFirst?_of_not_mem hsign
    rw [hsplit]
    rfl
  · have hreversed : (closed info ++ text).reverse = text.reverse ++ '@' :: info.reverse := by
      simp [closed, hne]
    have hbody : infoOf info = info := hinfo.infoOf_eq
    rw [hreversed, Text.splitFirst?_append hsign]
    simp only [List.reverse_reverse]
    rw [if_neg (by simpa using hne)]
    exact congrArg (fun body => some (closed body, text ++ rest)) hbody

/-! ## Hosts -/

theorem HostChar.authorityChar {c : Char} (h : HostChar c) : AuthorityChar c ∧ c ≠ '@' := by
  have hc := h.2.2
  simp only [List.mem_cons, List.not_mem_nil, or_false, not_or] at hc
  refine ⟨⟨h.1, ?_⟩, hc.2.2.2.2.1⟩
  simp [hc]

theorem HostText.authorityChar {text : List Char} (h : HostText text) :
    ∀ c ∈ text, AuthorityChar c ∧ c ≠ '@' := by
  cases h with
  | name h => exact fun c hc => (h c hc).1.authorityChar
  | bracketed h =>
    have hbracket : ∀ c ∈ ['[', ']'], HostChar c :=
      List.all_iff_forall_prop.1 (by decide)
    refine List.forall_mem_cons.2 ⟨(hbracket '[' (by decide)).authorityChar,
      List.forall_mem_append.2 ⟨fun c hc => (h c hc).1.authorityChar, ?_⟩⟩
    exact List.forall_mem_singleton.2 (hbracket ']' (by decide)).authorityChar

/-- A character that belongs to a host is taken, and the rest goes on with the brackets that are
open behind it. -/
theorem spanHost_cons (kind : SchemeKind) {inBrackets : Bool} {c : Char} (hc : HostChar c)
    (hcolon : inBrackets = true ∨ c ≠ ':') (cs : List Char) :
    spanHost kind inBrackets (c :: cs) =
      let (host, rest) :=
        spanHost kind (if c = '[' then true else if c = ']' then false else inBrackets) cs
      (c :: host, rest) := by
  have hend := hc.authorityChar.1.not_end kind
  have hstop : ((c == ':' && !inBrackets) || isSlash kind c || c == '?' || c == '#') = false := by
    rw [Bool.or_assoc, Bool.or_assoc, ← Bool.or_assoc (isSlash kind c), hend, Bool.or_false]
    cases hcolon with
    | inl h => simp [h]
    | inr h => simp [h]
  rw [spanHost, hstop, if_neg Bool.false_ne_true]

theorem spanHost_append {kind : SchemeKind} {inBrackets : Bool} {text : List Char}
    (htext : ∀ c ∈ text, HostChar c ∧ c ∉ ['[', ']'] ∧ (inBrackets = true ∨ c ≠ ':'))
    (rest : List Char) :
    spanHost kind inBrackets (text ++ rest) =
      (text ++ (spanHost kind inBrackets rest).1, (spanHost kind inBrackets rest).2) := by
  induction text with
  | nil => rfl
  | cons c text ih =>
    obtain ⟨⟨hc, hbracket, hcolon⟩, htext⟩ := List.forall_mem_cons.1 htext
    simp only [List.mem_cons, List.not_mem_nil, or_false, not_or] at hbracket
    rw [List.cons_append, spanHost_cons kind hc hcolon, if_neg hbracket.1, if_neg hbracket.2,
      ih htext]
    rfl

/-- A host ends where a port, a path or a query starts. -/
theorem spanHost_of_stop (kind : SchemeKind) {rest : List Char}
    (h : EndsAuthority rest ∨ rest.head? = some ':') :
    spanHost kind false rest = ([], rest) := by
  cases rest with
  | nil => rfl
  | cons c cs =>
    rw [spanHost]
    cases h with
    | inl hends =>
      have hend := isEnd_of_mem kind (hends c rfl)
      rw [if_pos (by rw [Bool.or_assoc, Bool.or_assoc, ← Bool.or_assoc (isSlash kind c), hend,
        Bool.or_true])]
    | inr hcolon =>
      obtain rfl : c = ':' := Option.some.inj hcolon
      rfl

/-- The text of a host is taken as a whole. -/
theorem HostText.spanHost_eq {text : List Char} (h : HostText text) (kind : SchemeKind)
    {rest : List Char} (hrest : EndsAuthority rest ∨ rest.head? = some ':') :
    spanHost kind false (text ++ rest) = (text, rest) := by
  cases h with
  | name hname =>
    rw [spanHost_append fun c hc => ?_, spanHost_of_stop kind hrest, List.append_nil]
    have hc := hname c hc
    simp only [List.mem_cons, List.not_mem_nil, or_false, not_or] at hc ⊢
    exact ⟨hc.1, hc.2.2, .inr hc.2.1⟩
  | @bracketed inner hinner =>
    have hin : spanHost kind true (inner ++ ']' :: rest) = (inner ++ [']'], rest) := by
      rw [spanHost_append fun c hc => ⟨(hinner c hc).1, (hinner c hc).2, .inl rfl⟩,
        spanHost_cons kind (by decide) (.inl rfl), if_neg (by decide), if_pos rfl,
        spanHost_of_stop kind hrest]
    rw [List.cons_append, List.append_assoc, List.singleton_append,
      spanHost_cons kind (by decide) (.inr (by decide)), if_pos rfl, hin]

/-! ## Ports -/

/-- A port that is written: one of 16 bits that the scheme does not imply. -/
def WrittenPort (scheme : String) (port : Nat) : Prop :=
  port ≤ 65535 ∧ defaultPort? scheme ≠ some port

/-- Nothing, or what follows a port. -/
def endsPort (rest : List Char) : Bool :=
  match rest with
  | [] => true
  | c :: _ => c == '/' || c == '\\' || c == '?' || c == '#'

theorem readPort?_eq_some_iff {scheme : String} {cs rest : List Char} {port : Option Nat} :
    readPort? scheme cs = some (port, rest) ↔
      let digits := cs.takeWhile Text.isAsciiDigit
      rest = cs.dropWhile Text.isAsciiDigit ∧ endsPort rest = true ∧
        Numeral.ofDigits digits ≤ 65535 ∧
        port = if digits.isEmpty || defaultPort? scheme == some (Numeral.ofDigits digits) then none
          else some (Numeral.ofDigits digits) := by
  have hread : readPort? scheme cs =
      if !endsPort (cs.dropWhile Text.isAsciiDigit) ||
          65535 < Numeral.ofDigits (cs.takeWhile Text.isAsciiDigit) then none
      else if (cs.takeWhile Text.isAsciiDigit).isEmpty || defaultPort? scheme ==
          some (Numeral.ofDigits (cs.takeWhile Text.isAsciiDigit)) then
        some (none, cs.dropWhile Text.isAsciiDigit)
      else some (some (Numeral.ofDigits (cs.takeWhile Text.isAsciiDigit)),
        cs.dropWhile Text.isAsciiDigit) := rfl
  rw [hread]
  simp only
  constructor
  · intro h
    split at h
    · cases h
    next hrange =>
    simp only [Bool.or_eq_true, Bool.not_eq_true', decide_eq_true_eq, not_or, Nat.not_lt,
      Bool.not_eq_false] at hrange
    split at h
    · next hport =>
      obtain ⟨rfl, rfl⟩ := Prod.mk.inj (Option.some.inj h)
      exact ⟨rfl, hrange.1, hrange.2, (if_pos hport).symm⟩
    · next hport =>
      obtain ⟨rfl, rfl⟩ := Prod.mk.inj (Option.some.inj h)
      exact ⟨rfl, hrange.1, hrange.2, (if_neg hport).symm⟩
  · rintro ⟨rfl, hended, hrange, rfl⟩
    rw [hended, if_neg (by simpa using hrange)]
    split
    · rfl
    · rfl

/-- A port is read back. -/
theorem readPort?_toDigits {scheme : String} {port : Nat} (hport : WrittenPort scheme port)
    {rest : List Char} (hrest : EndsAuthority rest) :
    readPort? scheme (Nat.toDigits 10 port ++ rest) = some (some port, rest) := by
  have hdigits : ∀ c ∈ Nat.toDigits 10 port, Text.isAsciiDigit c = true :=
    fun c hc => Numeral.isAsciiDigit_of_mem_toDigits hc
  have hstop : ∀ c ∈ rest.head?, Text.isAsciiDigit c = false := by
    have hends : ∀ c ∈ ['/', '?', '#'], Text.isAsciiDigit c = false :=
      List.all_iff_forall_prop.1 (by decide)
    exact fun c hc => hends c (hrest c hc)
  have hvalue : Numeral.ofDigits (Nat.toDigits 10 port) = port := by
    rw [Numeral.ofDigits_eq hdigits, Nat.ofDigitChars_ten_toDigits]
  have hended : endsPort rest = true := by
    cases rest with
    | nil => rfl
    | cons c cs =>
      have hc := hrest c rfl
      simp only [List.mem_cons, List.not_mem_nil, or_false] at hc
      rcases hc with rfl | rfl | rfl
      · rfl
      · rfl
      · rfl
  rw [readPort?_eq_some_iff]
  simp only [Text.takeWhile_append_stop hdigits hstop, Text.dropWhile_append_stop hdigits hstop,
    hvalue]
  refine ⟨trivial, hended, hport.1, ?_⟩
  simp [hport.2]

/-! ## Authorities -/

/-- Read the host of a known or an unknown scheme. -/
def parseHost? (kind : SchemeKind) (text : List Char) : Option Host :=
  if kind.isKnown then Host.parse? text else Host.parseOpaque? text

/-- Read a port with its colon, if there is one. -/
def readPortPart? (scheme : String) (cs : List Char) : Option (Option Nat × List Char) :=
  match cs with
  | ':' :: rest => readPort? scheme rest
  | rest => some (none, rest)

theorem readPortPart?_of_ne {scheme : String} {cs : List Char} (h : ∀ rest, cs ≠ ':' :: rest) :
    readPortPart? scheme cs = some (none, cs) := by
  unfold readPortPart?
  split
  · next rest => exact absurd rfl (h rest)
  · rfl

/-- A port with its colon, if there is one. -/
def portText : Option Nat → List Char
  | some port => ':' :: Nat.toDigits 10 port
  | none => []

/-- An authority with its path, step by step. -/
def authority? (kind : SchemeKind) (scheme : String) (cs : List Char) : Option Url :=
  (readUserInfo? kind cs).bind fun (info, after) =>
    let (hostText, behind) := spanHost kind false after
    (parseHost? kind hostText).bind fun host =>
      if host.render.isEmpty && (kind.isKnown || !info.isEmpty || behind.head? == some ':') then none
      else (readPortPart? scheme behind).map fun (port, rest) =>
        { kind
          front := scheme.toList ++ [':', '/', '/'] ++ info ++ host.render ++ portText port
          path := pathOf kind (beforeQuery rest)
          opaquePath := false }

theorem readAuthority_eq (kind : SchemeKind) (scheme : String) (cs : List Char) :
    readAuthority kind scheme cs =
      match authority? kind scheme cs with
      | some url => .ok url
      | none => .error .invalidHost := by
  unfold readAuthority authority?
  cases readUserInfo? kind cs with
  | none => rfl
  | some read =>
    obtain ⟨info, after⟩ := read
    simp only [Option.bind_some]
    generalize spanHost kind false after = spanned
    obtain ⟨hostText, behind⟩ := spanned
    simp only
    cases hhost : parseHost? kind hostText with
    | none =>
      unfold parseHost? at hhost
      simp only [hhost]
      rfl
    | some host =>
      unfold parseHost? at hhost
      simp only [hhost, Option.bind_some]
      split
      · rfl
      · split
        · -- a port
          rename_i rest _
          have hpart : readPortPart? scheme (':' :: rest) = readPort? scheme rest := rfl
          rw [hpart]
          cases readPort? scheme rest with
          | none => rfl
          | some read =>
            obtain ⟨port, rest⟩ := read
            cases port with
            | none => rfl
            | some n => rfl
        · next hcolon =>
          rw [readPortPart?_of_ne hcolon]
          rfl

theorem readAuthority_eq_ok_iff {kind : SchemeKind} {scheme : String} {cs : List Char} {url : Url} :
    readAuthority kind scheme cs = .ok url ↔ authority? kind scheme cs = some url := by
  rw [readAuthority_eq]
  cases authority? kind scheme cs with
  | none => simp
  | some url => simp

/-- An address with an authority that is read from its text as itself. -/
inductive SettledAuthority (kind : SchemeKind) (scheme : String) : Url → Prop where
  | mk {info path : List Char} {host : Host} {port : Option Nat} (hinfo : InfoText info)
      (htext : HostText host.render) (hhost : parseHost? kind host.render = some host)
      (hempty : host.render = [] → kind.isKnown = false ∧ info = [] ∧ port = none)
      (hport : ∀ n ∈ port, WrittenPort scheme n) (hpath : Settled kind path) :
      SettledAuthority kind scheme
        ⟨kind, scheme.toList ++ [':', '/', '/'] ++ closed info ++ host.render ++ portText port, path,
          false⟩

theorem authorityChar_of_mem_portText {port : Option Nat} :
    ∀ c ∈ portText port, AuthorityChar c ∧ c ≠ '@' := by
  cases port with
  | none => exact fun c hc => absurd hc List.not_mem_nil
  | some n =>
    have hall : ∀ n ∈ List.range 0x80, Text.isAsciiDigit (Char.ofNat n) = true →
        HostChar (Char.ofNat n) := by decide +kernel
    have hcolon : HostChar ':' := by decide
    refine List.forall_mem_cons.2 ⟨hcolon.authorityChar, fun c hc => ?_⟩
    have hdigit := Numeral.isAsciiDigit_of_mem_toDigits hc
    obtain ⟨-, hhigh⟩ := (Text.isAsciiDigit_iff c).1 hdigit
    exact (Text.of_ascii (p := fun c => Text.isAsciiDigit c = true → HostChar c) hall (by omega)
      hdigit).authorityChar

/-- A settled address is read back from its authority and its path, whatever query follows. -/
theorem SettledAuthority.readAuthority_eq {kind : SchemeKind} {scheme : String} {url : Url}
    (h : SettledAuthority kind scheme url) (hkind : kind ≠ .file) :
    ∃ authority, url.front = scheme.toList ++ [':', '/', '/'] ++ authority ∧
      (∀ c ∈ authority, AuthorityChar c) ∧ (kind.isKnown = true → authority ≠ []) ∧
      Settled kind url.path ∧ ∀ tail, Tail tail →
        readAuthority kind scheme (authority ++ (url.path ++ tail)) = .ok url := by
  cases h with
  | @mk info path host port hinfo htext hhost hempty hport hpath =>
    have hchars : ∀ c ∈ host.render ++ portText port, AuthorityChar c ∧ c ≠ '@' :=
      List.forall_mem_append.2 ⟨htext.authorityChar, authorityChar_of_mem_portText⟩
    refine ⟨closed info ++ (host.render ++ portText port), by simp,
      List.forall_mem_append.2 ⟨hinfo.authorityChar, fun c hc => (hchars c hc).1⟩,
      fun hknown hnil => ?_, hpath, fun tail htail => ?_⟩
    · have hrender := (List.append_eq_nil_iff.1 (List.append_eq_nil_iff.1 hnil).2).1
      rw [(hempty hrender).1] at hknown
      cases hknown
    -- each part is found again by what stands behind it
    have hends := hpath.endsAuthority htail
    have hread := readUserInfo?_append kind hinfo hchars hends
    have hspan : spanHost kind false (host.render ++ (portText port ++ (path ++ tail))) =
        (host.render, portText port ++ (path ++ tail)) := by
      refine htext.spanHost_eq kind ?_
      cases port with
      | none => exact .inl hends
      | some n => exact .inr rfl
    have hcolon : (path ++ tail).head? ≠ some ':' := fun h => absurd (hends ':' h) (by decide)
    have hpart : readPortPart? scheme (portText port ++ (path ++ tail)) =
        some (port, path ++ tail) := by
      cases port with
      | none =>
        refine readPortPart?_of_ne fun rest hrest => hcolon ?_
        change path ++ tail = _ at hrest
        rw [hrest]
        rfl
      | some n => exact readPort?_toDigits (hport n rfl) hends
    rw [readAuthority_eq_ok_iff, authority?]
    simp only [List.append_assoc] at hread hspan hpart ⊢
    rw [hread]
    simp only [Option.bind_some, hspan, hhost, hpart, Option.map_some,
      hpath.beforeQuery_append htail, hpath.pathOf_eq hkind]
    rw [if_neg]
    -- without a host there is neither user information nor a port
    intro hguard
    simp only [Bool.and_eq_true, Bool.or_eq_true, List.isEmpty_iff, Bool.not_eq_true',
      beq_iff_eq] at hguard
    obtain ⟨hkind, rfl, rfl⟩ := hempty hguard.1
    rcases hguard.2 with (hknown | hclosed) | hport
    · rw [hkind] at hknown
      cases hknown
    · cases hclosed
    · exact hcolon hport

end Url

end Catalog
