import Catalog.Files.Tree
import Catalog.Logging.LogFile
import Mathlib.Algebra.Group.Nat.Defs
import Mathlib.Tactic.Common

/-!
# The size limit of the log file

A section asks for a limit in mebibytes, and the log file gets one in bytes, in arithmetic of 64
bits that wraps around. As long as the bytes asked for fit, the limit is exact, and a larger size
gives no smaller limit. A limit that comes out as zero is not survived: opening the file ends the
program exactly when the bytes asked for are a multiple of `2 ^ 64`, zero among them, or the path
does not end in the name of a file.

## Key results

- `LogFile.toNat_limit`: the limit is what was asked for, up to multiples of `2 ^ 64`
- `LogFile.open_run`: what comes of opening the log file, once the directories above it are made
- `LogFile.open_survives_iff`: when the limit is the one asked for, and when opening is survived
- `LogFile.exists_crashed`: sizes that are not survived, and a larger size with a smaller limit
-/

namespace Catalog.LogFile

/-! ## The limit -/

/-- The bytes that a section asks for. -/
def askedBytes (s : LogSection) : Nat :=
  (s.maxSizeMb.getD defaultMaxSizeMb).toNat * 2 ^ 20

/-- The limit is what was asked for, up to multiples of `2 ^ 64`. -/
theorem toNat_limit (s : LogSection) : (limit s).toNat = askedBytes s % 2 ^ 64 := by
  have hmul : (limit s).toNat =
      (s.maxSizeMb.getD defaultMaxSizeMb).toNat * 1024 % 2 ^ 64 * 1024 % 2 ^ 64 := by
    simp [limit, UInt64.toNat_mul]
  -- the remainder of the first product does not change that of the second
  rw [hmul, askedBytes]
  omega

/-- The limit is exact when the bytes asked for fit, and only then. -/
theorem toNat_limit_eq_iff (s : LogSection) :
    (limit s).toNat = askedBytes s ↔ askedBytes s < 2 ^ 64 := by
  rw [toNat_limit]
  omega

theorem limit_eq_zero_iff (s : LogSection) : limit s = 0 ↔ 2 ^ 64 ∣ askedBytes s := by
  rw [← UInt64.toNat_inj, toNat_limit]
  simp [Nat.dvd_iff_mod_eq_zero]

theorem limit_le_iff (t s : LogSection) :
    limit t ≤ limit s ↔ askedBytes t % 2 ^ 64 ≤ askedBytes s % 2 ^ 64 := by
  rw [UInt64.le_iff_toNat_le, toNat_limit, toNat_limit]

/-- Where the bytes asked for fit, whoever asks for less gets no larger limit. -/
theorem limit_mono {t s : LogSection} (hfits : askedBytes s < 2 ^ 64)
    (hle : askedBytes t ≤ askedBytes s) : limit t ≤ limit s := by
  rw [limit_le_iff]
  omega

/-! ## Opening -/

variable {σ : Type}

/-- Make the directories above a file. -/
def makeParents (files : FileAccess (StateM σ)) (path : String) :
    StateM σ (Except FileError Unit) :=
  match Path.parent? path with
  | some parent => files.createDirectories parent
  | none => pure (.ok ())

/-- What comes of opening a file once the directories above it are made, or cannot be. -/
def opening (s : LogSection) (path : String) : Except FileError Unit → LogOpening
  | .error e => .failed path e
  | .ok () => if limit s = 0 || !hasFileName path then .crashed path else .opened path

/-- The directories above the file and the settings decide what comes of opening it. -/
theorem open_run (files : FileAccess (StateM σ)) {settings : LogSettings} {s : LogSection}
    (base : String) (h : section? settings = some s) (state : σ) :
    ((«open» files settings base).run state).1 =
      opening s (resolve s.file base) ((makeParents files (resolve s.file base)).run state).1 := by
  simp only [«open», h, makeParents]
  cases Path.parent? (resolve s.file base) with
  | none =>
    simp only [opening]
    split <;> rfl
  | some parent =>
    simp only [StateT.run_bind]
    cases (files.createDirectories parent).run state with
    | mk made after =>
      cases made with
      | error e => rfl
      | ok _ =>
        simp only [opening]
        split <;> rfl

theorem opening_eq_crashed_iff (s : LogSection) (path : String) (made : Except FileError Unit) :
    opening s path made = .crashed path ↔
      made = .ok () ∧ (2 ^ 64 ∣ askedBytes s ∨ hasFileName path = false) := by
  cases made with
  | error e => simp [opening]
  | ok _ =>
    rw [← limit_eq_zero_iff]
    simp only [opening]
    split <;> simp_all

/-- Opening that does not end the program gives the file, or why a directory is missing. -/
theorem opened_or_failed {s : LogSection} {path : String} {made : Except FileError Unit}
    (h : opening s path made ≠ .crashed path) :
    opening s path made = .opened path ∨
      ∃ e, made = .error e ∧ opening s path made = .failed path e := by
  cases made with
  | error e => exact .inr ⟨e, rfl, rfl⟩
  | ok _ =>
    simp only [opening] at h ⊢
    split at h
    · exact absurd rfl h
    · exact .inl (if_neg ‹_›)

/-- The limit is the one asked for exactly when the bytes fit into 64 bits; up to there a larger
size gives no smaller limit. From whatever state of the files, opening ends the program exactly
when the directories can be made but the bytes asked for are a multiple of `2 ^ 64`, or the path
does not end in the name of a file. Otherwise the file is open, or a directory cannot be made. -/
theorem open_survives_iff (files : FileAccess (StateM σ)) {settings : LogSettings} {s : LogSection}
    (base : String) (h : section? settings = some s) :
    let path := resolve s.file base
    ((limit s).toNat = askedBytes s ↔ askedBytes s < 2 ^ 64) ∧
    (∀ t, limit t ≤ limit s ↔ askedBytes t % 2 ^ 64 ≤ askedBytes s % 2 ^ 64) ∧
    (askedBytes s < 2 ^ 64 → ∀ t, askedBytes t ≤ askedBytes s → limit t ≤ limit s) ∧
    ∀ state,
      let made := ((makeParents files path).run state).1
      let outcome := ((«open» files settings base).run state).1
      (outcome = .crashed path ↔
        made = .ok () ∧ (2 ^ 64 ∣ askedBytes s ∨ hasFileName path = false)) ∧
      (outcome ≠ .crashed path →
        outcome = .opened path ∨ ∃ e, made = .error e ∧ outcome = .failed path e) := by
  refine ⟨toNat_limit_eq_iff s, fun t => limit_le_iff t s, fun hfits t hle => limit_mono hfits hle,
    fun state => ?_⟩
  simp only [open_run files base h]
  exact ⟨opening_eq_crashed_iff .., opened_or_failed⟩

/-! ## Sizes in a tree of files -/

/-- A default section that names a file in the home directory, with a size. -/
def sized (mebibytes : UInt64) : LogSection where
  consoleLevel := "info"
  file := "a.log"
  maxSizeMb := some mebibytes

/-- The log settings of one section. -/
def onlyDefault (s : LogSection) : LogSettings :=
  .ofList [(LogSection.defaultName, s)]

/-- A tree of files in which there is only the root. -/
def bareTree : FileTree where
  currentDirectory := "/"

theorem section?_only {s : LogSection} (h : Text.allBlank s.file = false) :
    LogFile.section? (onlyDefault s) = some s := by
  have hget : (onlyDefault s).get? LogSection.defaultName = some s := by
    simp [onlyDefault, SortedMap.ofList, SortedMap.get?_insert]
  simp [section?, hget, h]

theorem section?_sized (n : UInt64) : section? (onlyDefault (sized n)) = some (sized n) := by
  have hfile : Text.allBlank "a.log" = false := by decide
  exact section?_only hfile

theorem resolve_sized (n : UInt64) : resolve (sized n).file "/home" = "/home/a.log" := by
  have hjoin : Path.join "/home" "a.log" = "/home/a.log" := by decide +kernel
  exact hjoin

theorem makeParents_bareTree :
    ((makeParents FileTree.access "/home/a.log").run bareTree).1 = .ok () := by
  decide +kernel

/-- Five mebibytes are taken as they are, and the file is open. -/
theorem open_survives_sized_five :
    LogFile.section? (onlyDefault (sized 5)) = some (sized 5) ∧
      (limit (sized 5)).toNat = 5 * 2 ^ 20 ∧
      ((«open» FileTree.access (onlyDefault (sized 5)) "/home").run bareTree).1 =
        .opened "/home/a.log" := by
  obtain ⟨hexact, -, -, hopen⟩ :=
    open_survives_iff FileTree.access "/home" (section?_sized 5)
  have hasked : askedBytes (sized 5) = 5 * 2 ^ 20 := by decide
  -- the directory can be made, the product fits and the path names a file
  obtain ⟨hcrash, hother⟩ := hopen bareTree
  simp only [resolve_sized, makeParents_bareTree, true_and, hasked] at hcrash hother
  have hname : hasFileName "/home/a.log" = true := by decide +kernel
  have halive : ((«open» FileTree.access (onlyDefault (sized 5)) "/home").run bareTree).1 ≠
      .crashed "/home/a.log" := by
    simp [hcrash, hname]
  refine ⟨section?_sized 5, by rw [hexact.mpr (by rw [hasked]; decide), hasked], ?_⟩
  simpa using hother halive

/-- The first size for which the bytes asked for do not fit. -/
def wrapping : UInt64 := 17592186044416

theorem askedBytes_wrapping : askedBytes (sized wrapping) = 2 ^ 64 := by decide

/-- The size `0` and the first one that does not fit end the program, and the latter gives a smaller
limit than one mebibyte. -/
theorem exists_crashed :
    (∀ n ∈ [0, wrapping],
      ((«open» FileTree.access (onlyDefault (sized n)) "/home").run bareTree).1 =
        .crashed "/home/a.log") ∧
    1 < wrapping ∧ limit (sized wrapping) < limit (sized 1) := by
  have hzero : ∀ n ∈ [0, wrapping], 2 ^ 64 ∣ askedBytes (sized n) := by
    intro n hn
    simp only [List.mem_cons, List.not_mem_nil, or_false] at hn
    cases hn with
    | inl h => subst h; decide
    | inr h => simp [h, askedBytes_wrapping]
  refine ⟨fun n hn => ?_, by decide, by decide⟩
  rw [open_run _ _ (section?_sized n), resolve_sized, makeParents_bareTree]
  exact (opening_eq_crashed_iff ..).mpr ⟨rfl, .inl (hzero n hn)⟩

end Catalog.LogFile
