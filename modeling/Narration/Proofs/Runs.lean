import Mathlib.Data.List.TakeWhile
import Narration.Text.Words
/-! The longest runs of characters of a kind in a text. The words of a text are its runs of letters and
digits. -/
namespace Narration.Text

/-- The longest runs of characters of a kind, from left to right. -/
def runs (kind : Char → Bool) : List Char → List (List Char)
  | [] => []
  | c :: rest =>
    if kind c then (c :: rest.takeWhile kind) :: runs kind (rest.dropWhile kind)
    else runs kind rest
termination_by s => s.length
decreasing_by
  · exact Nat.lt_succ_of_le (List.dropWhile_sublist kind).length_le
  · exact Nat.lt_succ_self _

/-- `run` occurs in `s` as a run of characters of a kind that cannot be made longer on either side. -/
def IsRun (kind : Char → Bool) (run s : List Char) : Prop :=
  ∃ before after, s = before ++ run ++ after ∧ run ≠ [] ∧ (∀ c ∈ run, kind c) ∧
    (∀ c, before.getLast? = some c → ¬ kind c) ∧ ∀ c, after.head? = some c → ¬ kind c

/-- A word of a text is a longest run of letters and digits. -/
def IsWord (word : List Char) (s : String) : Prop := IsRun isAlphanumeric word s.toList

variable {kind : Char → Bool} {c : Char} {run rest s before after : List Char}

section Runs

theorem runs_nil : runs kind [] = [] := by rw [runs]

theorem runs_of_kind (here : kind c) (rest : List Char) :
    runs kind (c :: rest) = (c :: rest.takeWhile kind) :: runs kind (rest.dropWhile kind) := by
  rw [runs, if_pos here]

theorem runs_of_not_kind (other : ¬ kind c) (rest : List Char) :
    runs kind (c :: rest) = runs kind rest := by
  rw [runs, if_neg other]

/-- A character of another kind ends all runs in front of it. -/
theorem runs_append_cons (other : ¬ kind c) (before after : List Char) :
    runs kind (before ++ c :: after) = runs kind before ++ runs kind after := by
  fun_induction runs kind before with
  | case1 => exact runs_of_not_kind other after
  | case2 first rest here ih =>
      have taken : (rest ++ c :: after).takeWhile kind = rest.takeWhile kind := by
        rw [List.takeWhile_append, List.takeWhile_cons_of_neg other, List.append_nil]
        split
        · rename_i all
          exact ((List.takeWhile_sublist kind).eq_of_length all).symm
        · rfl
      have left : (rest ++ c :: after).dropWhile kind = rest.dropWhile kind ++ c :: after := by
        rw [List.dropWhile_append, List.dropWhile_cons_of_neg other]
        split
        · rename_i none
          rw [List.isEmpty_iff.mp none, List.nil_append]
        · rfl
      rw [List.cons_append, runs_of_kind here, taken, left, ih, List.cons_append]
  | case3 first rest here ih => rw [List.cons_append, runs_of_not_kind here, ih]

/-- A text of one kind is one run. -/
theorem runs_of_all (all : ∀ c ∈ s, kind c) (nonempty : s ≠ []) : runs kind s = [s] := by
  cases s with
  | nil => exact absurd rfl nonempty
  | cons first rest =>
      obtain ⟨here, further⟩ := List.forall_mem_cons.mp all
      have left : rest.dropWhile kind = [] := List.dropWhile_eq_nil_iff.mpr further
      rw [runs_of_kind here, left, runs_nil, List.takeWhile_eq_self_iff.mpr further]

end Runs

section Maximal

theorem not_isRun_nil : ¬ IsRun kind run [] := by
  rintro ⟨before, after, split, nonempty, -⟩
  simp [nonempty] at split

theorem takeWhile_of_ends (all : ∀ c ∈ s, kind c) (ends : ∀ c, rest.head? = some c → ¬ kind c) :
    (s ++ rest).takeWhile kind = s := by
  rw [List.takeWhile_append_of_pos all]
  cases rest with
  | nil => exact List.append_nil s
  | cons first others => rw [List.takeWhile_cons_of_neg (ends first rfl), List.append_nil]

/-- In front of a character of another kind, a text of one kind is a run. -/
theorem isRun_append (all : ∀ c ∈ s, kind c) (nonempty : s ≠ [])
    (ends : ∀ c, rest.head? = some c → ¬ kind c) :
    IsRun kind run (s ++ rest) ↔ run = s ∨ IsRun kind run rest := by
  constructor
  · rintro ⟨before, after, split, filled, inside, starts, stops⟩
    rw [List.append_assoc, List.append_eq_append_iff] at split
    rcases split with ⟨between, rfl, same⟩ | ⟨part, rfl, same⟩
    · refine .inr ⟨between, after, by rw [same, List.append_assoc], filled, inside, ?_, stops⟩
      intro c last
      exact starts c (by rw [List.getLast?_append, last, Option.some_or])
    · have alone : before = [] := by
        by_contra some
        have last := List.getLast?_eq_some_getLast some
        have member := List.mem_append_left part (List.getLast_mem some)
        exact starts _ last (all _ member)
      subst alone
      left
      rw [← takeWhile_of_ends inside stops, same, List.nil_append]
      exact takeWhile_of_ends all ends
  · rintro (rfl | ⟨before, after, rfl, filled, inside, starts, stops⟩)
    · exact ⟨[], rest, rfl, nonempty, all, nofun, ends⟩
    · refine ⟨s ++ before, after, by simp only [List.append_assoc], filled, inside, ?_, stops⟩
      intro c last
      cases before with
      | nil =>
          -- The rest would begin inside the run.
          cases run with
          | nil => exact absurd rfl filled
          | cons first others => exact absurd (inside first (.head _)) (ends first rfl)
      | cons first others =>
          have ended := List.getLast?_eq_some_getLast (List.cons_ne_nil first others)
          rw [List.getLast?_append, ended, Option.some_or] at last
          exact starts c (ended.trans last)

theorem isRun_cons (other : ¬ kind c) : IsRun kind run (c :: s) ↔ IsRun kind run s := by
  constructor
  · rintro ⟨before, after, split, filled, inside, starts, stops⟩
    cases before with
    | nil =>
        cases run with
        | nil => exact absurd rfl filled
        | cons first others =>
            cases split
            exact absurd (inside c (.head _)) other
    | cons first before =>
        cases split
        refine ⟨before, after, rfl, filled, inside, fun d last => ?_, stops⟩
        exact starts d (by rw [List.getLast?_cons, last, Option.getD_some])
  · rintro ⟨before, after, rfl, filled, inside, starts, stops⟩
    refine ⟨c :: before, after, rfl, filled, inside, fun d last => ?_, stops⟩
    cases ended : before.getLast? with
    | none =>
        rw [List.getLast?_cons, ended] at last
        cases last
        exact other
    | some e =>
        rw [List.getLast?_cons, ended] at last
        cases last
        exact starts _ ended

/-- The runs of a text are those that cannot be made longer. -/
theorem mem_runs_iff : run ∈ runs kind s ↔ IsRun kind run s := by
  fun_induction runs kind s with
  | case1 => exact ⟨nofun, fun isRun => absurd isRun not_isRun_nil⟩
  | case2 first rest here ih =>
      have all : ∀ c ∈ first :: rest.takeWhile kind, kind c :=
        List.forall_mem_cons.mpr ⟨here, List.all_eq_true.mp List.all_takeWhile⟩
      have ends : ∀ c, (rest.dropWhile kind).head? = some c → ¬ kind c := by
        intro c begins
        have head := List.head?_dropWhile_not kind rest
        rw [begins] at head
        simpa using head
      have whole : first :: rest = (first :: rest.takeWhile kind) ++ rest.dropWhile kind := by
        rw [List.cons_append, List.takeWhile_append_dropWhile]
      rw [whole, isRun_append all (List.cons_ne_nil _ _) ends, List.mem_cons, ih]
  | case3 first rest here ih => rw [isRun_cons here, ih]

end Maximal

section Words

/-- Where a word is being read, it ends with the run of the text that follows. -/
theorem wordsAfter_cons (run : List Char) (c : Char) (s : List Char) :
    wordsAfter (c :: run) s =
      ((c :: run).reverse ++ s.takeWhile isAlphanumeric) ::
        wordsAfter [] (s.dropWhile isAlphanumeric) := by
  induction s generalizing run c with
  | nil => simp [wordsAfter]
  | cons d rest ih =>
      by_cases here : isAlphanumeric d
      · rw [wordsAfter, if_pos here, ih, List.takeWhile_cons_of_pos here,
          List.dropWhile_cons_of_pos here, List.reverse_cons, List.append_assoc]
        rfl
      · rw [wordsAfter, if_neg here, if_neg (by simp), List.takeWhile_cons_of_neg here,
          List.dropWhile_cons_of_neg here, List.append_nil, wordsAfter, if_neg here,
          if_pos List.isEmpty_nil]

theorem wordsAfter_nil (s : List Char) : wordsAfter [] s = runs isAlphanumeric s := by
  fun_induction runs isAlphanumeric s with
  | case1 => rfl
  | case2 first rest here ih =>
      rw [wordsAfter, if_pos here, wordsAfter_cons, ih]
      rfl
  | case3 first rest here ih => rw [wordsAfter, if_neg here, if_pos List.isEmpty_nil, ih]

theorem mem_words_iff {word : List Char} {s : String} : word ∈ words s ↔ IsWord word s := by
  rw [words, wordsAfter_nil, mem_runs_iff, IsWord]

end Words

end Narration.Text
