import Narration.Proofs.Lexing
/-! How a text is cut at its tokens. What stands in front of a token falls into the tokens before it, and
still does so with something else behind it. -/
namespace Narration.Expr

variable {s text rest other front : List Char} {offset : Nat} {token : Token}
  {first place : Located} {others before behind : List Located}

theorem byteCount_append (s other : List Char) :
    byteCount (s ++ other) = byteCount s + byteCount other := by
  induction s with
  | nil => simp [byteCount]
  | cons c s ih =>
      simp only [byteCount, List.cons_append, List.foldr_cons] at ih ⊢
      omega

theorem utf8ByteSize_ofList (s : List Char) : (String.ofList s).utf8ByteSize = byteCount s := by
  induction s with
  | nil => rfl
  | cons c s ih =>
      have split : String.ofList (c :: s) = String.singleton c ++ String.ofList s := by
        rw [String.singleton_eq_ofList, ← String.ofList_append]
        rfl
      rw [split, String.utf8ByteSize_append, String.utf8ByteSize_singleton, ih]
      rfl

theorem endsWord_of_append (ends : EndsWord (s ++ other)) : EndsWord s := by
  intro c begins
  refine ends c ?_
  rw [List.head?_append, begins]
  rfl

theorem endsWord_append (ends : EndsWord s) (further : EndsWord other) : EndsWord (s ++ other) := by
  cases s with
  | nil => exact further
  | cons c s => exact ends

/-- The characters of a token in front of `rest`. They are read as this token wherever they stand. What
follows may be changed, except that behind a word the word still has to end. -/
structure Lexeme (token : Token) (text rest : List Char) : Prop where
  read : ∀ offset other, (EndsWord rest → EndsWord other) →
    tokenize offset (text ++ other) =
      (tokenize (offset + byteCount text) other).map (⟨token, offset⟩ :: ·)

/-- What is read up to a closing quote is read so whatever follows. -/
theorem exists_quoted {quote : Char} {quoted : QuotedText} (read : readQuoted quote s = some quoted) :
    ∃ inside, s = inside ++ quoted.rest ∧ byteCount inside = quoted.bytes ∧
      ∀ other, readQuoted quote (inside ++ other) = some { quoted with rest := other } := by
  fun_induction readQuoted quote s generalizing quoted with
  | case1 => cases read
  | case2 => cases read
  | case3 escaped rest ih =>
      obtain ⟨inner, found, rfl⟩ := Option.map_eq_some_iff.mp read
      obtain ⟨inside, split, size, again⟩ := ih found
      refine ⟨'\\' :: escaped :: inside, by rw [split]; rfl, ?_, fun other => ?_⟩
      · simp only [byteCount, List.foldr_cons, QuotedText.cons] at size ⊢
        rw [size, Nat.add_assoc]
        rfl
      · rw [List.cons_append, List.cons_append, readQuoted_backslash, again]
        rfl
  | case4 rest noEscape =>
      cases read
      refine ⟨[quote], rfl, rfl, fun other => readQuoted_end noEscape other⟩
  | case5 c rest noEscape noQuote ih =>
      obtain ⟨inner, found, rfl⟩ := Option.map_eq_some_iff.mp read
      obtain ⟨inside, split, size, again⟩ := ih found
      refine ⟨c :: inside, by rw [split]; rfl, ?_, fun other => ?_⟩
      · simp only [byteCount, List.foldr_cons, QuotedText.cons] at size ⊢
        rw [size]
      · rw [List.cons_append, readQuoted_plain noEscape noQuote, again]
        rfl

theorem endsWord_dropWhile (s : List Char) : EndsWord (s.dropWhile continuesWord) := by
  intro c begins
  have stops := List.head?_dropWhile_not continuesWord s
  rw [Option.mem_def.mp begins] at stops
  simpa using stops

/-- The first token of a text: the blanks in front of it can be left out, and the characters of the token
stand in front of what falls into the other tokens. -/
theorem exists_lexeme (lexed : tokenize offset s = .ok (first :: others)) :
    ∃ blanks text rest, s = blanks ++ (text ++ rest) ∧
      (∀ other, tokenize offset (blanks ++ other) = tokenize first.offset other) ∧
      first.offset = offset + byteCount blanks ∧ Lexeme first.token text rest ∧
      tokenize (first.offset + byteCount text) rest = .ok others := by
  fun_induction tokenize offset s with
  | case1 => cases lexed
  | case2 offset c rest blank ih =>
      obtain ⟨blanks, text, behind, rfl, skips, place, lexeme, goes⟩ := ih lexed
      refine ⟨c :: blanks, text, behind, rfl, fun other => ?_, ?_, lexeme, goes⟩
      · rw [List.cons_append, tokenize_of_blank blank, skips]
      · rw [place, Nat.add_assoc]
        rfl
  | case3 offset c rest dark token mark ih =>
      obtain ⟨_, goes, same⟩ := map_eq_ok lexed
      cases same
      refine ⟨[], [c], rest, rfl, fun other => rfl, rfl, ⟨fun offset other _ => ?_⟩, goes⟩
      exact tokenize_of_punctuation dark mark
  | case4 => cases lexed
  | case5 offset c rest dark unmarked quote quoted read ih =>
      obtain ⟨_, goes, same⟩ := map_eq_ok lexed
      cases same
      obtain ⟨inside, split, size, again⟩ := exists_quoted read
      refine ⟨[], c :: inside, quoted.rest, by rw [split]; rfl, fun other => rfl, rfl,
        ⟨fun offset other _ => ?_⟩, ?_⟩
      · have bytes : offset + c.utf8Size + quoted.bytes = offset + byteCount (c :: inside) := by
          simp only [byteCount, List.foldr_cons] at size ⊢
          omega
        rw [List.cons_append, tokenize_of_quoted dark unmarked quote (again other)]
        simp only [bytes]
      · have bytes : offset + byteCount (c :: inside) = offset + c.utf8Size + quoted.bytes := by
          simp only [byteCount, List.foldr_cons] at size ⊢
          omega
        rw [bytes]
        exact goes
  | case6 offset c rest dark unmarked unquoted starts word ih =>
      obtain ⟨_, goes, same⟩ := map_eq_ok lexed
      cases same
      refine ⟨[], word, rest.dropWhile continuesWord, ?_, fun other => rfl, rfl,
        ⟨fun offset other ends => ?_⟩, goes⟩
      · exact congrArg (c :: ·) List.takeWhile_append_dropWhile.symm
      · exact tokenize_word _ (ends (endsWord_dropWhile rest)) starts List.all_takeWhile offset
  | case7 => cases lexed

theorem tokenize_append_of_nil (lexed : tokenize offset s = .ok []) (other : List Char) :
    tokenize offset (s ++ other) = tokenize (offset + byteCount s) other := by
  have differs {place : Located} {lexed : Except SyntaxError (List Located)} :
      lexed.map (place :: ·) ≠ .ok [] := by
    intro empty
    obtain ⟨_, -, none⟩ := map_eq_ok empty
    cases none
  fun_induction tokenize offset s with
  | case1 => rfl
  | case2 offset c rest blank ih =>
      rw [List.cons_append, tokenize_of_blank blank, ih lexed, Nat.add_assoc]
      rfl
  | case3 => exact absurd lexed differs
  | case4 => cases lexed
  | case5 => exact absurd lexed differs
  | case6 => exact absurd lexed differs
  | case7 => cases lexed

/-- The tokens of a text stay the same with something behind it that ends a word. -/
theorem tokenize_append (lexed : tokenize offset s = .ok others) (ends : EndsWord other) :
    ∃ next, tokenize offset (s ++ other) = (tokenize next other).map (others ++ ·) := by
  induction others generalizing offset s with
  | nil =>
      refine ⟨offset + byteCount s, ?_⟩
      rw [tokenize_append_of_nil lexed]
      cases tokenize (offset + byteCount s) other <;> rfl
  | cons first others ih =>
      obtain ⟨blanks, text, rest, rfl, skips, place, lexeme, goes⟩ := exists_lexeme lexed
      obtain ⟨next, further⟩ := ih goes
      refine ⟨next, ?_⟩
      have kept : EndsWord rest → EndsWord (rest ++ other) := fun before => endsWord_append before ends
      rw [List.append_assoc, skips, List.append_assoc, lexeme.read first.offset _ kept, further]
      cases tokenize next other <;> rfl

/-- A text is cut where one of its tokens starts. What stands in front falls into the tokens before. -/
theorem exists_cut (lexed : tokenize offset s = .ok (before ++ place :: behind)) :
    ∃ front back, s = front ++ back ∧ place.offset = offset + byteCount front ∧
      tokenize offset front = .ok before ∧ tokenize place.offset back = .ok (place :: behind) := by
  induction before generalizing offset s with
  | nil =>
      obtain ⟨blanks, text, rest, rfl, skips, placed, lexeme, goes⟩ := exists_lexeme lexed
      refine ⟨blanks, text ++ rest, rfl, placed, ?_, ?_⟩
      · have silent := skips []
        rwa [List.append_nil, tokenize_nil] at silent
      · rw [lexeme.read place.offset rest id, goes]
        rfl
  | cons first before ih =>
      obtain ⟨blanks, text, rest, rfl, skips, placed, lexeme, goes⟩ := exists_lexeme lexed
      obtain ⟨front, back, rfl, distance, lexedFront, lexedBack⟩ := ih goes
      refine ⟨blanks ++ (text ++ front), back, ?_, ?_, ?_, lexedBack⟩
      · simp only [List.append_assoc]
      · rw [distance, placed, byteCount_append, byteCount_append]
        omega
      · rw [skips, lexeme.read first.offset front endsWord_of_append, lexedFront]
        rfl

end Narration.Expr
