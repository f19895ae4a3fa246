import Narration.Expr.Parser
import Narration.Expr.Printer
/-! How spelled pieces of an expression fall into tokens, whatever stands behind them. -/
namespace Narration.Expr

/-- Whether `s` falls into exactly these tokens, wherever it stands. -/
def Lexes (s : List Char) (tokens : List Token) : Prop :=
  ∀ offset, ∃ located, tokenize offset s = .ok located ∧ located.map Located.token = tokens

/-- Whether `text` falls into these tokens and then into whatever `rest` falls into. -/
def Falls (text : List Char) (tokens : List Token) (rest : List Char) : Prop :=
  ∀ offset, ∃ next located, located.map Located.token = tokens ∧
    tokenize offset text = (tokenize next rest).map (located ++ ·)

/-- Whether a word in front of `s` ends there. -/
def EndsWord (s : List Char) : Prop := ∀ c ∈ s.head?, continuesWord c = false

variable {c : Char} {s text rest : List Char} {token : Token} {tokens before behind : List Token}

theorem lexes_nil : Lexes [] [] := fun _ => ⟨[], tokenize_nil, rfl⟩

theorem Falls.lexes (falls : Falls text before rest) (lexes : Lexes rest behind) :
    Lexes text (before ++ behind) := by
  intro offset
  obtain ⟨next, located, same, split⟩ := falls offset
  obtain ⟨others, lexed, alike⟩ := lexes next
  refine ⟨located ++ others, ?_, by rw [List.map_append, same, alike]⟩
  rw [split, lexed]
  rfl

theorem Falls.trans (first : Falls text before s) (second : Falls s behind rest) :
    Falls text (before ++ behind) rest := by
  intro offset
  obtain ⟨middle, located, same, split⟩ := first offset
  obtain ⟨next, others, alike, further⟩ := second middle
  refine ⟨next, located ++ others, by rw [List.map_append, same, alike], ?_⟩
  rw [split, further]
  cases tokenize next rest with
  | error error => rfl
  | ok last => exact congrArg Except.ok (List.append_assoc located others last).symm

theorem falls_nil : Falls s [] s := by
  intro offset
  refine ⟨offset, [], rfl, ?_⟩
  cases tokenize offset s <;> rfl

theorem falls_blank (blank : Text.isBlank c) : Falls (c :: s) [] s := by
  intro offset
  refine ⟨offset + c.utf8Size, [], rfl, ?_⟩
  rw [tokenize_of_blank blank]
  cases tokenize (offset + c.utf8Size) s <;> rfl

/-- One token in front of the rest. -/
theorem falls_token (first : ∀ offset, ∃ next, tokenize offset text =
    (tokenize next s).map (⟨token, offset⟩ :: ·)) : Falls text [token] s := by
  intro offset
  obtain ⟨next, split⟩ := first offset
  exact ⟨next, [⟨token, offset⟩], rfl, split⟩

theorem not_isBlank_of_punctuation (mark : punctuation? c = some token) : ¬ Text.isBlank c := by
  intro blank
  have differs (other : Char) (dark : Text.isBlank other = false) : c ≠ other := by
    rintro rfl
    rw [dark] at blank
    cases blank
  simp only [punctuation?, differs '+' (by decide), differs ',' (by decide), differs '[' (by decide),
    differs ']' (by decide), differs '(' (by decide), differs ')' (by decide), if_false] at mark
  cases mark

theorem falls_punctuation (mark : punctuation? c = some token) : Falls (c :: s) [token] s :=
  falls_token fun _ => ⟨_, tokenize_of_punctuation (not_isBlank_of_punctuation mark) mark⟩

theorem falls_space : Falls (' ' :: s) [] s := falls_blank (by decide)

theorem isBlank_of_isAlphabetic (letter : Text.isAlphabetic c) : Text.isBlank c = false :=
  Text.inRanges_eq_false_of_apart (by decide +kernel) letter

theorem not_isBlank_of_startsWord (starts : startsWord c) : ¬ Text.isBlank c := by
  intro blank
  rcases Bool.or_eq_true_iff.mp starts with letter | underscore
  · rw [isBlank_of_isAlphabetic letter] at blank
    cases blank
  · rw [of_decide_eq_true underscore] at blank
    revert blank
    decide

/-- The blank and the marks that are tokens of their own or open a text. -/
def marks : List Char := [' ', '+', ',', '[', ']', '(', ')', '"', '\'']

theorem continuesWord_of_mem_marks {mark : Char} (member : mark ∈ marks) :
    continuesWord mark = false := by
  have none : marks.all fun mark => !continuesWord mark := by decide +kernel
  have light := List.all_eq_true.mp none mark member
  rwa [Bool.not_eq_true'] at light

theorem continuesWord_of_startsWord (starts : startsWord c) : continuesWord c := by
  rw [startsWord, Bool.or_eq_true] at starts
  rw [continuesWord, Text.isAlphanumeric, Bool.or_eq_true, Bool.or_eq_true]
  exact starts.imp_left .inl

theorem ne_of_startsWord (starts : startsWord c) {mark : Char} (member : mark ∈ marks) :
    c ≠ mark := by
  rintro rfl
  have continues := continuesWord_of_startsWord starts
  rw [continuesWord_of_mem_marks member] at continues
  cases continues

theorem punctuation?_of_startsWord (starts : startsWord c) : punctuation? c = none := by
  have differs (mark : Char) (member : mark ∈ marks) := ne_of_startsWord starts member
  simp only [punctuation?, differs '+' (by decide), differs ',' (by decide), differs '[' (by decide),
    differs ']' (by decide), differs '(' (by decide), differs ')' (by decide), if_false]

theorem not_isQuote_of_startsWord (starts : startsWord c) : ¬ isQuote c := by
  have double : c ≠ '"' := ne_of_startsWord starts (by decide)
  have single : c ≠ '\'' := ne_of_startsWord starts (by decide)
  simp [isQuote, double, single]

theorem endsWord_nil : EndsWord [] := nofun

theorem endsWord_cons (ends : continuesWord c = false) : EndsWord (c :: s) := by
  intro first head
  cases head
  exact ends

theorem endsWord_mark (member : c ∈ marks) : EndsWord (c :: s) :=
  endsWord_cons (continuesWord_of_mem_marks member)

theorem takeWhile_of_endsWord (ends : EndsWord s) : s.takeWhile continuesWord = [] := by
  cases s with
  | nil => rfl
  | cons first rest => rw [List.takeWhile_cons, ends first rfl]; rfl

theorem dropWhile_of_endsWord (ends : EndsWord s) : s.dropWhile continuesWord = s := by
  cases s with
  | nil => rfl
  | cons first rest => rw [List.dropWhile_cons, ends first rfl]; rfl

/-- A whole word is one token. -/
theorem tokenize_word (word : List Char) (ends : EndsWord s) (starts : startsWord c)
    (continues : word.all continuesWord) (offset : Nat) :
    tokenize offset (c :: word ++ s) = (tokenize (offset + byteCount (c :: word)) s).map
      (⟨wordToken (String.ofList (c :: word)), offset⟩ :: ·) := by
  have continues : ∀ d ∈ word, continuesWord d := List.all_eq_true.mp continues
  have taken : (word ++ s).takeWhile continuesWord = word := by
    rw [List.takeWhile_append_of_pos continues, takeWhile_of_endsWord ends, List.append_nil]
  have dropped : (word ++ s).dropWhile continuesWord = s := by
    rw [List.dropWhile_append_of_pos continues, dropWhile_of_endsWord ends]
  rw [List.cons_append, tokenize_of_word (not_isBlank_of_startsWord starts)
    (punctuation?_of_startsWord starts) (not_isQuote_of_startsWord starts) starts, taken, dropped]

theorem falls_word (word : List Char) (ends : EndsWord s) (starts : startsWord c)
    (continues : word.all continuesWord) :
    Falls (c :: word ++ s) [wordToken (String.ofList (c :: word))] s :=
  falls_token fun offset => ⟨_, tokenize_word word ends starts continues offset⟩

theorem map_eq_ok {ε α β : Type} {f : α → β} {result : Except ε α} {value : β}
    (mapped : result.map f = .ok value) : ∃ inner, result = .ok inner ∧ f inner = value := by
  cases result with
  | error error => cases mapped
  | ok inner => exact ⟨inner, rfl, Except.ok.inj mapped⟩

theorem map_eq_error {ε α β : Type} {f : α → β} {result : Except ε α} {error : ε}
    (failed : result.map f = .error error) : result = .error error := by
  cases result with
  | error other => exact congrArg Except.error (Except.error.inj failed)
  | ok inner => cases failed

section Quoted

variable {quote : Char}

theorem readQuoted_backslash (d : Char) (quoted : List Char) :
    readQuoted quote ('\\' :: d :: quoted) =
      (readQuoted quote quoted).map (.cons (unescape d) (1 + d.utf8Size)) := by
  rw [readQuoted.eq_def]
  simp

theorem readQuoted_plain (noEscape : c ≠ '\\') (noQuote : c ≠ quote) (quoted : List Char) :
    readQuoted quote (c :: quoted) = (readQuoted quote quoted).map (.cons c c.utf8Size) := by
  rw [readQuoted.eq_def]
  simp [noEscape, noQuote]

theorem readQuoted_end (noEscape : quote ≠ '\\') (rest : List Char) :
    readQuoted quote (quote :: rest) = some ⟨[], quote.utf8Size, rest⟩ := by
  rw [readQuoted.eq_def]
  simp [noEscape]

end Quoted

/-- A character is spelled as itself, or by a backslash and the character that stands for it. -/
theorem escapedChar_cases (c : Char) :
    (escapedChar c = [c] ∧ c ≠ '\\' ∧ c ≠ '"') ∨
      ∃ d, escapedChar c = ['\\', d] ∧ unescape d = c := by
  by_cases quote : c = '"'
  · subst quote
    exact .inr ⟨'"', rfl, rfl⟩
  by_cases backslash : c = '\\'
  · subst backslash
    exact .inr ⟨'\\', rfl, rfl⟩
  by_cases newline : c = '\n'
  · subst newline
    exact .inr ⟨'n', rfl, rfl⟩
  by_cases tab : c = '\t'
  · subst tab
    exact .inr ⟨'t', rfl, rfl⟩
  by_cases carriage : c = '\r'
  · subst carriage
    exact .inr ⟨'r', rfl, rfl⟩
  by_cases zero : c = '\x00'
  · subst zero
    exact .inr ⟨'0', rfl, rfl⟩
  · exact .inl ⟨by simp [escapedChar, quote, backslash, newline, tab, carriage, zero], backslash, quote⟩

theorem readQuoted_escapedChar (c : Char) (quoted : List Char) :
    ∃ bytes, readQuoted '"' (escapedChar c ++ quoted) =
      (readQuoted '"' quoted).map (.cons c bytes) := by
  rcases escapedChar_cases c with ⟨plain, noEscape, noQuote⟩ | ⟨d, escaped, meant⟩
  · rw [plain]
    exact ⟨_, readQuoted_plain noEscape noQuote quoted⟩
  · rw [escaped, ← meant]
    exact ⟨_, readQuoted_backslash d quoted⟩

/-- The spelling of a text is read back as this text. -/
theorem readQuoted_spelling (value : List Char) :
    ∃ bytes, readQuoted '"' (value.flatMap escapedChar ++ '"' :: s) = some ⟨value, bytes, s⟩ := by
  induction value with
  | nil => exact ⟨_, readQuoted_end (by decide) s⟩
  | cons c value ih =>
      obtain ⟨bytes, read⟩ := ih
      obtain ⟨more, readFirst⟩ := readQuoted_escapedChar c (value.flatMap escapedChar ++ '"' :: s)
      rw [List.flatMap_cons, List.append_assoc, readFirst, read]
      exact ⟨_, rfl⟩

theorem falls_quoted (value : String) : Falls (textSpelling value ++ s) [.str value] s := by
  obtain ⟨bytes, read⟩ := readQuoted_spelling (s := s) value.toList
  refine falls_token fun offset => ⟨offset + '"'.utf8Size + bytes, ?_⟩
  have lexed : tokenize offset ('"' :: (value.toList.flatMap escapedChar ++ '"' :: s)) = _ :=
    tokenize_of_quoted (by decide) rfl (by decide) read
  simpa [textSpelling] using lexed

end Narration.Expr
