import Mathlib.Data.List.DropRight
import Narration.Logging.Directive
import Narration.Proofs.Tiling
/-! Directives that give a module a level. The main result: with a plain name of a module, exactly the
levels are accepted behind the equals sign, and these with a comma and blanks behind them. -/
namespace Narration.Text

open Narration.Expr (byteCount byteCount_cons)

variable {c : Char}

theorem dropBytes?_append (front back : List Char) :
    dropBytes? (byteCount front) (front ++ back) = some back := by
  induction front with
  | nil => cases back <;> rfl
  | cons c front ih =>
      have positive := c.utf8Size_pos
      rw [byteCount_cons, List.cons_append, dropBytes?, if_neg (by omega), if_pos (by omega),
        Nat.add_sub_cancel_left, ih]

theorem takeBytes?_append (front back : List Char) :
    takeBytes? (byteCount front) (front ++ back) = some front := by
  induction front with
  | nil => cases back <;> rfl
  | cons c front ih =>
      have positive := c.utf8Size_pos
      rw [byteCount_cons, List.cons_append, takeBytes?, if_neg (by omega), if_pos (by omega),
        Nat.add_sub_cancel_left, ih]
      rfl

/-- What stands between two texts is found by their bytes. -/
theorem slice?_append (front middle back : List Char) :
    slice? (String.ofList (front ++ (middle ++ back))) (byteCount front)
      (byteCount front + byteCount middle) = some (String.ofList middle) := by
  rw [slice?, if_neg (by omega), String.toList_ofList, dropBytes?_append, Nat.add_sub_cancel_left]
  simp only [Option.bind_eq_bind, Option.bind_some, takeBytes?_append]
  rfl

theorem rdropWhile_append_cons (dark : ¬ isBlank c) (front back : List Char) :
    (front ++ c :: back).rdropWhile isBlank = front ++ c :: back.rdropWhile isBlank := by
  have kept : (c :: front.reverse).dropWhile isBlank = c :: front.reverse :=
    List.dropWhile_cons_of_neg dark
  rw [List.rdropWhile, List.reverse_append, List.reverse_cons, List.append_assoc,
    List.singleton_append, List.dropWhile_append, List.rdropWhile]
  split
  · rename_i none
    rw [kept, List.isEmpty_iff.mp none]
    simp
  · simp

theorem trimBlank_cons (dark : ¬ isBlank c) (s : List Char) :
    trimBlank (c :: s) = (c :: s).rdropWhile isBlank := by
  rw [trimBlank, List.dropWhile_cons_of_neg dark, List.rdropWhile]

end Narration.Text

namespace Narration.Logging.Directive

open Narration.Expr (byteCount byteCount_cons byteCount_append utf8ByteSize_ofList)

/-- Whether a name of a module is plain: it names no span and ends where its level starts. -/
def IsPlain (name : List Char) : Prop :=
  (∃ c rest, name = c :: rest ∧ startsWord c) ∧ '=' ∉ name ∧ '[' ∉ name ∧ ',' ∉ name

/-- A level, or one with a comma and blanks behind it. -/
def GivesLevel (s : List Char) : Prop :=
  isLevel s ∨ ∃ level blanks, s = level ++ ',' :: blanks ∧ isLevel level ∧ blanks.all Text.isBlank

variable {text : String} {offset first : Nat} {s rest level name : List Char} {c : Char}
  {reading next : DirectiveReading}

theorem run_append (text : String) (offset : Nat) (reading : DirectiveReading) (s rest : List Char) :
    run text offset reading (s ++ rest) =
      (run text offset reading s).bind fun next => run text (offset + byteCount s) next rest := by
  induction s generalizing offset reading with
  | nil => rfl
  | cons c s ih =>
      rw [List.cons_append, run, run]
      cases step text offset c reading with
      | none => rfl
      | some next =>
          rw [byteCount_cons, ← Nat.add_assoc]
          exact ih (offset + c.utf8Size) next

theorem not_isBlank_of_startsWord (starts : startsWord c) : ¬ Text.isBlank c := by
  intro blank
  have inWord := Expr.continuesWord_of_isBlank blank
  simp only [Expr.continuesWord, startsWord, Bool.or_eq_false_iff, Bool.or_eq_true,
    decide_eq_true_eq] at inWord starts
  rcases starts with ((rfl | rfl) | rfl) | letter
  · exact absurd blank (by decide)
  · exact absurd blank (by decide)
  · exact absurd blank (by decide)
  · rw [inWord.1] at letter
    cases letter

theorem run_word (noLevel : '=' ∉ s) (noSpan : '[' ∉ s) (noEnd : ',' ∉ s) :
    run text offset .word s = some .word := by
  induction s generalizing offset with
  | nil => rfl
  | cons c s ih =>
      rw [List.mem_cons, not_or] at noLevel noSpan noEnd
      rw [run, step, if_neg (Ne.symm noLevel.1), if_neg (Ne.symm noSpan.1), if_neg (Ne.symm noEnd.1)]
      exact ih noLevel.2 noSpan.2 noEnd.2

theorem run_start (plain : IsPlain name) : run text offset .start name = some .word := by
  obtain ⟨⟨c, rest, rfl, starts⟩, noLevel, noSpan, noEnd⟩ := plain
  rw [List.mem_cons, not_or] at noLevel noSpan noEnd
  rw [run, step, if_neg (Ne.symm noSpan.1), if_pos starts]
  exact run_word noLevel.2 noSpan.2 noEnd.2

theorem run_level (unended : ',' ∉ s) : run text offset (.level first) s = some (.level first) := by
  induction s generalizing offset with
  | nil => rfl
  | cons c s ih =>
      rw [List.mem_cons, not_or] at unended
      rw [run, step, if_neg (Ne.symm unended.1)]
      exact ih unended.2

/-- A comma ends a level, and nothing may follow it. -/
theorem run_level_comma (unended : ',' ∉ s) (rest : List Char) :
    run text offset (.level first) (s ++ ',' :: rest) =
      if levelBetween text first (offset + byteCount s) ∧ rest = [] then some .complete else none := by
  rw [run_append, run_level unended, Option.bind_some, run, step, if_pos rfl]
  cases levelBetween text first (offset + byteCount s) with
  | false => rfl
  | true => cases rest <;> rfl

theorem all_isDigit_of_digits? {value : Nat} (read : Text.digits? s = some value) :
    s.all Text.isDigit := by
  unfold Text.digits? at read
  split at read
  · cases read
  · rename_i digits
    rw [Bool.or_eq_true, not_or, Bool.not_eq_true', Bool.not_eq_false] at digits
    exact digits.2

theorem not_mem_of_natural? {value : Nat} (read : Text.natural? s = some value) : ',' ∉ s := by
  have digit {digits : List Char} (read : Text.digits? digits = some value) : ',' ∉ digits := by
    intro comma
    have all := List.all_eq_true.mp (all_isDigit_of_digits? read) ',' comma
    revert all
    decide
  unfold Text.natural? Text.signed at read
  split at read
  · cases read
  · rename_i pair split
    split at split
    · cases split
    · cases split
      simpa using digit read
    · cases split
      exact digit read

/-- Levels have no commas. -/
theorem not_mem_of_isLevel (given : isLevel s) : ',' ∉ s := by
  intro comma
  rcases Bool.or_eq_true_iff.mp given with number | word
  · cases read : Text.natural? s with
    | none =>
        rw [read] at number
        cases number
    | some value => exact not_mem_of_natural? read comma
  · have apart : ∀ word ∈ levelWords, ',' ∉ word.toList := by decide
    have free := apart _ (List.contains_iff_mem.mp word)
    rw [String.toList_ofList] at free
    exact free (List.mem_map.mpr ⟨',', comma, rfl⟩)

/-- The level that stands behind a name and an equals sign is found there. -/
theorem levelBetween_append (name level rest : List Char) :
    levelBetween (String.ofList (name ++ '=' :: (level ++ rest))) (byteCount name + 1)
      (byteCount name + 1 + byteCount level) = isLevel level := by
  have start : byteCount (name ++ ['=']) = byteCount name + 1 := byteCount_append name ['=']
  have found := Text.slice?_append (name ++ ['=']) level rest
  rw [start, List.append_assoc, List.singleton_append] at found
  rw [levelBetween, found, Option.any_some, String.toList_ofList]

/-- Behind a plain name and an equals sign, the level is what is left to read. -/
theorem isValid_of_isPlain (plain : IsPlain name) (level : List Char) :
    isValid (String.ofList (name ++ '=' :: level)) =
      (run (String.ofList (name ++ '=' :: level)) (byteCount name + 1) (.level (byteCount name + 1))
        (level.rdropWhile Text.isBlank)).any (isEnd (String.ofList (name ++ '=' :: level))) := by
  have kept : Text.trimBlank (name ++ '=' :: level) = name ++ '=' :: level.rdropWhile Text.isBlank := by
    obtain ⟨⟨c, rest, rfl, starts⟩, -⟩ := plain
    rw [List.cons_append, Text.trimBlank_cons (not_isBlank_of_startsWord starts), ← List.cons_append,
      Text.rdropWhile_append_cons (by decide)]
  rw [isValid, String.toList_ofList, kept, run_append, run_start plain, Option.bind_some, run, step,
    if_pos rfl, Nat.zero_add]
  rfl

/-- A directive may end behind its level. -/
theorem isEnd_level (name level : List Char) :
    isEnd (String.ofList (name ++ '=' :: level)) (.level (byteCount name + 1)) = isLevel level := by
  have found := levelBetween_append name level []
  have size : (String.ofList (name ++ '=' :: level)).utf8ByteSize =
      byteCount name + 1 + byteCount level := by
    rw [utf8ByteSize_ofList, byteCount_append, Nat.add_assoc]
    rfl
  rw [List.append_nil] at found
  rw [isEnd, size, found]

/-- Behind a plain name and an equals sign, what gives a level is accepted, and nothing else. -/
theorem isValid_iff_givesLevel (plain : IsPlain name) (level : List Char) :
    isValid (String.ofList (name ++ '=' :: level)) ↔ GivesLevel level := by
  rw [isValid_of_isPlain plain]
  constructor
  · intro accepted
    by_cases comma : ',' ∈ level.rdropWhile Text.isBlank
    · obtain ⟨given, rest, kept, unended⟩ := List.eq_append_cons_of_mem comma
      have split : level = given ++ (',' :: rest ++ level.rtakeWhile Text.isBlank) := by
        rw [← List.append_assoc, ← kept, List.rdropWhile_append_rtakeWhile]
      have found := levelBetween_append name given (',' :: rest ++ level.rtakeWhile Text.isBlank)
      rw [← split] at found
      rw [kept, run_level_comma unended, found] at accepted
      split at accepted
      · rename_i ended
        obtain ⟨isLevel, rfl⟩ := ended
        refine .inr ⟨given, level.rtakeWhile Text.isBlank, split, isLevel, ?_⟩
        exact List.all_eq_true.mpr fun c => List.mem_rtakeWhile_imp
      · cases accepted
    · rw [run_level comma, Option.any_some, isEnd_level] at accepted
      exact .inl accepted
  · rintro (given | ⟨given, blanks, rfl, isLevel, blank⟩)
    · have unended : ',' ∉ level.rdropWhile Text.isBlank := fun comma =>
        not_mem_of_isLevel given ((List.rdropWhile_prefix _ _).subset comma)
      rw [run_level unended, Option.any_some, isEnd_level]
      exact given
    · have none : blanks.rdropWhile Text.isBlank = [] :=
        List.rdropWhile_eq_nil_iff.mpr (List.all_eq_true.mp blank)
      rw [Text.rdropWhile_append_cons (by decide), none, run_level_comma (not_mem_of_isLevel isLevel),
        levelBetween_append, if_pos ⟨isLevel, rfl⟩]
      rfl

end Narration.Logging.Directive
