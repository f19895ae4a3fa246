import Narration.Proofs.Acceptance
import Narration.Proofs.Lexemes
/-! Where syntax errors are located. The main result: an expectation that is not met is reported at the
first token with which no expression goes on, or at the end; what stands in front begins an expression. -/
namespace Narration.Expr

namespace Reading

variable {reading next last : Reading} {token : Token} {what : Expectation} {text rest : List Char}
  {outer : List Chain} {chain : Chain} {value : Expr}

/-- Whether an expression is read once `text` follows. -/
def Completes (reading : Reading) (text : List Char) : Prop :=
  ∃ tokens final expr, Lexes text tokens ∧ reading.steps tokens = .ok final ∧ final.finish = .ok expr

theorem Completes.step (completes : next.Completes rest) (falls : Falls text [token] rest)
    (stepped : reading.step token = .ok next) : reading.Completes text := by
  obtain ⟨tokens, final, expr, lexes, read, ends⟩ := completes
  exact ⟨token :: tokens, final, expr, falls.lexes lexes, (steps_cons_of stepped tokens).trans read, ends⟩

/-- As many parentheses as are open. -/
def closing (outer : List Chain) : List Char := outer.map fun _ => ')'

theorem completes_closing : (Reading.operator outer chain value).Completes (closing outer) := by
  induction outer generalizing chain value with
  | nil => exact ⟨[], _, _, lexes_nil, rfl, rfl⟩
  | cons enclosing outer ih => exact ih.step (falls_punctuation rfl) rfl

theorem completes_bracket (stepped : reading.step .closeBracket = .ok (.operator outer chain value)) :
    reading.Completes (']' :: closing outer) :=
  completes_closing.step (falls_punctuation rfl) stepped

/-- Whatever was read begins an expression. -/
theorem exists_completes (reading : Reading) : ∃ text, reading.Completes text := by
  cases reading with
  | operand outer chain =>
      have opened : (Reading.operand outer chain).step .openBracket = .ok (.listStart outer chain) := rfl
      have bracket : punctuation? '[' = some .openBracket := rfl
      exact ⟨_, (completes_bracket rfl).step (falls_punctuation bracket) opened⟩
  | operator outer chain value => exact ⟨_, completes_closing⟩
  | listStart outer chain => exact ⟨_, completes_bracket rfl⟩
  | listItem outer chain items =>
      have item : (Reading.listItem outer chain items).step (.str "") =
        .ok (.listEnd outer chain (items ++ [.text ""])) := rfl
      exact ⟨_, (completes_bracket rfl).step (falls_quoted "") item⟩
  | listEnd outer chain items => exact ⟨_, completes_bracket rfl⟩

/-- Reading stops at a token that cannot be read or at an end that comes too early. -/
theorem run_eq_error {size : Nat} {located : List Located} {error : SyntaxError}
    (failed : reading.run size located = .error error) :
    ∃ before last what, reading.steps (before.map Located.token) = .ok last ∧
      ((∃ place behind, located = before ++ place :: behind ∧ last.step place.token = .error what ∧
          error = .expected what (some place.token) place.offset) ∨
        located = before ∧ error = .expected what none size) := by
  induction located generalizing reading with
  | nil =>
      rw [run] at failed
      cases ended : reading.finish with
      | ok expr =>
          rw [ended] at failed
          cases failed
      | error what =>
          rw [ended] at failed
          cases failed
          exact ⟨[], reading, what, rfl, .inr ⟨rfl, rfl⟩⟩
  | cons first rest ih =>
      rw [run] at failed
      cases stepped : reading.step first.token with
      | error what =>
          rw [stepped] at failed
          cases failed
          exact ⟨[], reading, what, rfl, .inl ⟨first, rest, rfl, stepped, rfl⟩⟩
      | ok next =>
          rw [stepped] at failed
          obtain ⟨before, last, what, read, stops⟩ := ih failed
          refine ⟨first :: before, last, what, (steps_cons_of stepped _).trans read, ?_⟩
          rcases stops with ⟨place, behind, rfl, refused, told⟩ | ⟨rfl, told⟩
          · exact .inl ⟨place, behind, rfl, refused, told⟩
          · exact .inr ⟨rfl, told⟩

end Reading

variable {source : String} {front text : List Char} {located before : List Located} {reading : Reading}
  {token : Token} {what : Expectation}

/-- What is read to its end is accepted, as is a text without tokens. -/
theorem exists_parse {final : Reading} {expr : Expr} (lexed : tokenize 0 source.toList = .ok located)
    (read : Reading.start.steps (located.map Located.token) = .ok final)
    (ends : final.finish = .ok expr) : ∃ expr, parse source = .ok expr := by
  cases located with
  | nil => exact ⟨.empty, by simp only [parse, lexed]⟩
  | cons first rest => exact ⟨expr, by simp only [parse, lexed, Reading.run_of_steps read ends]⟩

theorem exists_parse_append (lexed : tokenize 0 front = .ok before)
    (read : Reading.start.steps (before.map Located.token) = .ok reading)
    (completes : reading.Completes text) :
    ∃ expr, parse (String.ofList (front ++ ' ' :: text)) = .ok expr := by
  obtain ⟨tokens, final, expr, lexes, further, ends⟩ := completes
  have spaced : EndsWord (' ' :: text) := endsWord_mark (by decide)
  obtain ⟨next, split⟩ := tokenize_append lexed spaced
  obtain ⟨others, lexedText, same⟩ := falls_space.lexes lexes next
  rw [lexedText] at split
  refine exists_parse (by rw [String.toList_ofList]; exact split) ?_ ends
  rw [List.map_append, same, Reading.steps_append_of read]
  exact further

/-- What an accepted text falls into is read without a refusal. -/
theorem not_accepted_of_refused (read : Reading.start.steps (before.map Located.token) = .ok reading)
    (refused : reading.step token = .error what) {expr : Expr} (parsed : parse source = .ok expr)
    (lexed : tokenize 0 source.toList = .ok located) :
    ¬ before.map Located.token ++ [token] <+: located.map Located.token := by
  rintro ⟨behind, split⟩
  obtain ⟨others, alike, none | derived⟩ := derives_of_parse parsed
  · cases lexed.symm.trans alike
    rw [none.1, List.append_assoc] at split
    exact List.append_ne_nil_of_right_ne_nil _ (List.cons_ne_nil _ _) split
  · cases lexed.symm.trans alike
    obtain ⟨after, value, whole, -⟩ := derived.read [] .start rfl
    rw [← split, List.append_assoc] at whole
    have broken := Reading.steps_append_of read ([token] ++ behind)
    rw [show Reading.start.steps _ = _ from whole, List.singleton_append, Reading.steps,
      List.foldlM_cons, refused] at broken
    cases broken

/-- Cutting a text at its tokens expects nothing. -/
theorem tokenize_ne_expected {s : List Char} {offset size : Nat} {found : Option Token} :
    tokenize offset s ≠ .error (.expected what found size) := by
  intro failed
  fun_induction tokenize offset s with
  | case1 => cases failed
  | case2 offset c rest blank ih => exact ih failed
  | case3 offset c rest dark token mark ih => exact ih (map_eq_error failed)
  | case4 => cases failed
  | case5 offset c rest dark unmarked quote quoted read ih => exact ih (map_eq_error failed)
  | case6 offset c rest dark unmarked unquoted starts word ih => exact ih (map_eq_error failed)
  | case7 => cases failed

/-- Where an expectation is not met, the text falls into tokens, and what stands in front of the reported
offset begins an expression. At this offset stands the token that was found, and no expression goes on
with it behind the tokens before. Or else nothing was found, and the offset is that of the end. -/
theorem expected_located {found : Option Token} {offset : Nat}
    (failed : parse source = .error (.expected what found offset)) :
    ∃ located, tokenize 0 source.toList = .ok located ∧
      ∃ front back : String, source = front ++ back ∧ front.utf8ByteSize = offset ∧
        (∃ more expr, parse (front ++ more) = .ok expr) ∧
        ((∃ token before behind, found = some token ∧
            (SyntaxError.expected what found offset).message = "Expected " ++ what.describe ++
              " at offset " ++ toString offset ++ ", found " ++ token.describe ∧
            located = before ++ ⟨token, offset⟩ :: behind ∧
            tokenize 0 front.toList = .ok before ∧
            tokenize offset back.toList = .ok (⟨token, offset⟩ :: behind) ∧
            ∀ (other : String) (expr : Expr) (others : List Located), parse other = .ok expr →
              tokenize 0 other.toList = .ok others →
              ¬ before.map Located.token ++ [token] <+: others.map Located.token) ∨
          found = none ∧
            (SyntaxError.expected what found offset).message = "Expected " ++ what.describe ++
              " at offset " ++ toString offset ++ ", found " ++ "end of input" ∧
            offset = source.utf8ByteSize) := by
  unfold parse at failed
  split at failed
  · rename_i error broken
    cases failed
    exact absurd broken tokenize_ne_expected
  · cases failed
  · rename_i located some lexed
    obtain ⟨before, last, other, read, stops⟩ := Reading.run_eq_error failed
    obtain ⟨text, completes⟩ := last.exists_completes
    refine ⟨located, lexed, ?_⟩
    rcases stops with ⟨place, behind, rfl, refused, told⟩ | ⟨rfl, told⟩
    · cases told
      obtain ⟨front, back, split, distance, lexedFront, lexedBack⟩ := exists_cut lexed
      obtain ⟨expr, parsed⟩ := exists_parse_append lexedFront read completes
      refine ⟨.ofList front, .ofList back, ?_, ?_, ⟨.ofList (' ' :: text), expr, ?_⟩, .inl
        ⟨place.token, before, behind, rfl, rfl, rfl, ?_, ?_, fun other expr others parsed lexed => ?_⟩⟩
      · rw [← String.ofList_append, ← split, String.ofList_toList]
      · rw [utf8ByteSize_ofList, distance, Nat.zero_add]
      · rw [← String.ofList_append]
        exact parsed
      · rw [String.toList_ofList]
        exact lexedFront
      · rw [String.toList_ofList]
        exact lexedBack
      · exact not_accepted_of_refused read refused parsed lexed
    · cases told
      obtain ⟨expr, parsed⟩ := exists_parse_append lexed read completes
      refine ⟨source, "", (String.append_empty).symm, rfl, ⟨.ofList (' ' :: text), expr, ?_⟩,
        .inr ⟨rfl, rfl, rfl⟩⟩
      rw [← parsed, String.ofList_append, String.ofList_toList]

theorem expected_located_afterWord :
    parse "name pause" = .error (.expected .endOfExpression (some .pause) 5) ∧
      ∃ front back : String, "name pause" = front ++ back ∧ front.utf8ByteSize = 5 ∧
        ∃ more expr, parse (front ++ more) = .ok expr := by
  have failed : parse "name pause" = .error (.expected .endOfExpression (some .pause) 5) := by
    decide +kernel
  obtain ⟨_, _, front, back, split, size, continued, _⟩ := expected_located failed
  exact ⟨failed, front, back, split, size, continued⟩

end Narration.Expr
