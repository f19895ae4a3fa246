import Mathlib.Data.List.Basic
import Narration.Proofs.Lexemes
/-! Tokens against the text that they are read from. The main result: a text falls into tokens exactly if
blanks and these tokens make it up; any other text is refused at the first place where neither a blank nor
a token stands. -/
namespace Narration.Expr

/-- The marks that are tokens of their own. -/
def punctuation : List (Char × Token) :=
  [('+', .plus), (',', .comma), ('[', .openBracket), (']', .closeBracket), ('(', .openParen),
   (')', .closeParen)]

def keywordTokens : List (String × Token) := [("or", .or), ("and", .and), ("pause", .pause)]

/-- What stands behind a backslash for another character; all others stand for themselves. -/
def escapes : List (Char × Char) := [('n', '\n'), ('t', '\t'), ('r', '\r'), ('0', '\x00')]

/-- The characters that words are made of. -/
def InWord (c : Char) : Prop := Text.isAlphanumeric c ∨ c = '_'

/-- Whether no word goes on with `s`. -/
def EndsRun (s : List Char) : Prop := ∀ c ∈ s.head?, ¬ InWord c

/-- What can stand between two quotes, and what it means. A backslash goes with the character behind it,
so that a quote there does not end the text. -/
inductive Quotes (quote : Char) : List Char → List Char → Prop
  | nil : Quotes quote [] []
  | plain {c : Char} {inside value : List Char} (noEscape : c ≠ '\\') (noQuote : c ≠ quote)
      (further : Quotes quote inside value) : Quotes quote (c :: inside) (c :: value)
  | escaped {c : Char} {inside value : List Char} (further : Quotes quote inside value) :
      Quotes quote ('\\' :: c :: inside) ((escapes.lookup c).getD c :: value)

/-- The characters of a token in front of `rest`. A word ends where no character of a word follows. -/
inductive Spells (rest : List Char) : Token → List Char → Prop
  | mark {c : Char} {token : Token} (listed : (c, token) ∈ punctuation) : Spells rest token [c]
  | quoted {quote : Char} {inside value : List Char} (opens : quote = '"' ∨ quote = '\'')
      (quotes : Quotes quote inside value) :
      Spells rest (.str (String.ofList value)) (quote :: (inside ++ [quote]))
  | keyword {word : String} {token : Token} (listed : (word, token) ∈ keywordTokens)
      (ends : EndsRun rest) : Spells rest token word.toList
  | ident {c : Char} {word : List Char} (starts : Text.isAlphabetic c ∨ c = '_')
      (continues : ∀ d ∈ word, InWord d)
      (free : ∀ entry ∈ keywordTokens, entry.1 ≠ String.ofList (c :: word)) (ends : EndsRun rest) :
      Spells rest (.ident (String.ofList (c :: word))) (c :: word)

/-- Whether blanks and the located tokens make up what stands in `s` in front of `rest`. The offsets are
those of the first bytes of `s` and of `rest`. -/
inductive Tiles : Nat → List Char → List Located → Nat → List Char → Prop
  | nil {offset : Nat} {rest : List Char} : Tiles offset rest [] offset rest
  | blank {offset last : Nat} {c : Char} {s rest : List Char} {located : List Located}
      (blank : Text.isBlank c) (tiles : Tiles (offset + c.utf8Size) s located last rest) :
      Tiles offset (c :: s) located last rest
  | token {offset last : Nat} {token : Token} {lexeme s rest : List Char} {located : List Located}
      (spells : Spells s token lexeme) (tiles : Tiles (offset + byteCount lexeme) s located last rest) :
      Tiles offset (lexeme ++ s) (⟨token, offset⟩ :: located) last rest

/-- Why neither a blank nor a token stands at the given offset. -/
inductive Blocks (offset : Nat) : List Char → SyntaxError → Prop
  | char {c : Char} {rest : List Char} (dark : ¬ Text.isBlank c)
      (unmarked : ∀ token, (c, token) ∉ punctuation) (unquoted : ¬ (c = '"' ∨ c = '\''))
      (wordless : ¬ (Text.isAlphabetic c ∨ c = '_')) :
      Blocks offset (c :: rest) (.unexpectedChar c offset)
  | quote {quote : Char} {rest : List Char} (opens : quote = '"' ∨ quote = '\'')
      (unclosed : ∀ inside value behind, Quotes quote inside value → rest ≠ inside ++ quote :: behind) :
      Blocks offset (quote :: rest) (.unterminatedString offset)

variable {c quote : Char} {s rest front back other lexeme inside value : List Char} {offset last : Nat}
  {token : Token} {located others : List Located} {error : SyntaxError}

section Leaves

theorem punctuation?_eq_some_iff : punctuation? c = some token ↔ (c, token) ∈ punctuation := by
  constructor
  · intro mark
    unfold punctuation? at mark
    repeat' split at mark
    all_goals cases mark
    all_goals subst c
    all_goals decide
  · intro listed
    simp only [punctuation, List.mem_cons, List.not_mem_nil, or_false, Prod.mk.injEq] at listed
    rcases listed with ⟨rfl, rfl⟩ | ⟨rfl, rfl⟩ | ⟨rfl, rfl⟩ | ⟨rfl, rfl⟩ | ⟨rfl, rfl⟩ | ⟨rfl, rfl⟩
    all_goals rfl

theorem punctuation?_eq_none_iff :
    punctuation? c = none ↔ ∀ token, (c, token) ∉ punctuation := by
  simp only [Option.eq_none_iff_forall_ne_some, ne_eq, punctuation?_eq_some_iff]

theorem wordToken_cases (word : String) :
    (word, wordToken word) ∈ keywordTokens ∨
      (∀ entry ∈ keywordTokens, entry.1 ≠ word) ∧ wordToken word = .ident word := by
  by_cases isOr : word = "or"
  · subst isOr
    exact .inl (by decide)
  by_cases isAnd : word = "and"
  · subst isAnd
    exact .inl (by decide)
  by_cases isPause : word = "pause"
  · subst isPause
    exact .inl (by decide)
  · refine .inr ⟨?_, by simp only [wordToken, if_neg isOr, if_neg isAnd, if_neg isPause]⟩
    simp only [keywordTokens, List.forall_mem_cons]
    exact ⟨Ne.symm isOr, Ne.symm isAnd, Ne.symm isPause, nofun⟩

theorem isQuote_iff : isQuote c ↔ c = '"' ∨ c = '\'' := by
  simp only [isQuote, Bool.or_eq_true, decide_eq_true_eq]

theorem startsWord_iff : startsWord c ↔ Text.isAlphabetic c ∨ c = '_' := by
  simp only [startsWord, Bool.or_eq_true, decide_eq_true_eq]

theorem continuesWord_iff : continuesWord c ↔ InWord c := by
  simp only [continuesWord, InWord, Bool.or_eq_true, decide_eq_true_eq]

theorem all_continuesWord_iff : s.all continuesWord ↔ ∀ c ∈ s, InWord c := by
  simp only [List.all_eq_true, continuesWord_iff]

theorem endsWord_iff : EndsWord s ↔ EndsRun s := by
  simp only [EndsWord, EndsRun, ← continuesWord_iff, Bool.not_eq_true]

theorem unescape_eq (c : Char) : unescape c = (escapes.lookup c).getD c := by
  unfold unescape
  split_ifs with isN isT isR isZero
  case neg =>
    rw [escapes, List.lookup_cons, beq_false_of_ne isN, List.lookup_cons, beq_false_of_ne isT,
      List.lookup_cons, beq_false_of_ne isR, List.lookup_cons, beq_false_of_ne isZero]
    rfl
  all_goals
    subst c
    rfl

theorem ne_backslash_of_quote (opens : quote = '"' ∨ quote = '\'') : quote ≠ '\\' := by
  rcases opens with rfl | rfl <;> decide

theorem mem_marks_of_quote (opens : quote = '"' ∨ quote = '\'') : quote ∈ marks := by
  rcases opens with rfl | rfl <;> decide

theorem not_isBlank_of_quote (opens : quote = '"' ∨ quote = '\'') : ¬ Text.isBlank quote := by
  rcases opens with rfl | rfl <;> decide

theorem punctuation?_of_quote (opens : quote = '"' ∨ quote = '\'') : punctuation? quote = none := by
  rcases opens with rfl | rfl <;> rfl

theorem byteCount_cons (c : Char) (s : List Char) :
    byteCount (c :: s) = c.utf8Size + byteCount s := rfl

/-- Characters up to a quote that is not escaped are read as what they mean. -/
theorem Quotes.readQuoted_eq (quotes : Quotes quote inside value) (noEscape : quote ≠ '\\')
    (rest : List Char) :
    readQuoted quote (inside ++ quote :: rest) =
      some ⟨value, byteCount (inside ++ [quote]), rest⟩ := by
  induction quotes with
  | nil => exact readQuoted_end noEscape rest
  | plain noEscape noQuote further ih =>
      rw [List.cons_append, readQuoted_plain noEscape noQuote, ih]
      rfl
  | escaped further ih =>
      rw [List.cons_append, List.cons_append, readQuoted_backslash, unescape_eq, ih, List.cons_append,
        List.cons_append, byteCount_cons, byteCount_cons, ← Nat.add_assoc]
      rfl

theorem exists_quotes {quoted : QuotedText} (read : readQuoted quote s = some quoted) :
    ∃ inside, s = inside ++ quote :: quoted.rest ∧ Quotes quote inside quoted.value := by
  fun_induction readQuoted quote s generalizing quoted with
  | case1 => cases read
  | case2 => cases read
  | case3 escaped rest ih =>
      obtain ⟨inner, found, rfl⟩ := Option.map_eq_some_iff.mp read
      obtain ⟨inside, split, quotes⟩ := ih found
      rw [unescape_eq]
      exact ⟨'\\' :: escaped :: inside, by rw [split]; rfl, quotes.escaped⟩
  | case4 rest noEscape =>
      cases read
      exact ⟨[], rfl, .nil⟩
  | case5 c rest noEscape noQuote ih =>
      obtain ⟨inner, found, rfl⟩ := Option.map_eq_some_iff.mp read
      obtain ⟨inside, split, quotes⟩ := ih found
      exact ⟨c :: inside, by rw [split]; rfl, quotes.plain noEscape noQuote⟩

end Leaves

section Reading

/-- What spells a token is read as this token. -/
theorem Spells.tokenize_eq (spells : Spells rest token lexeme) (offset : Nat) :
    tokenize offset (lexeme ++ rest) =
      (tokenize (offset + byteCount lexeme) rest).map (⟨token, offset⟩ :: ·) := by
  cases spells with
  | mark listed =>
      have mark := punctuation?_eq_some_iff.mpr listed
      exact tokenize_of_punctuation (not_isBlank_of_punctuation mark) mark
  | @quoted quote inside value opens quotes =>
      have read := quotes.readQuoted_eq (ne_backslash_of_quote opens) rest
      have bytes : byteCount (quote :: (inside ++ [quote])) =
          quote.utf8Size + byteCount (inside ++ [quote]) := rfl
      rw [bytes, ← Nat.add_assoc, List.cons_append, List.append_assoc, List.singleton_append]
      exact tokenize_of_quoted (not_isBlank_of_quote opens) (punctuation?_of_quote opens)
        (isQuote_iff.mpr opens) read
  | keyword listed ends =>
      have ends := endsWord_iff.mpr ends
      simp only [keywordTokens, List.mem_cons, List.not_mem_nil, or_false, Prod.mk.injEq] at listed
      rcases listed with ⟨rfl, rfl⟩ | ⟨rfl, rfl⟩ | ⟨rfl, rfl⟩
      · exact tokenize_word ['r'] ends (by decide) (by decide) offset
      · exact tokenize_word ['n', 'd'] ends (by decide) (by decide) offset
      · exact tokenize_word ['a', 'u', 's', 'e'] ends (by decide) (by decide) offset
  | @ident c word starts continues free ends =>
      rw [tokenize_word word (endsWord_iff.mpr ends) (startsWord_iff.mpr starts)
        (all_continuesWord_iff.mpr continues) offset]
      rcases wordToken_cases (String.ofList (c :: word)) with listed | ⟨-, same⟩
      · exact absurd rfl (free _ listed)
      · rw [same]

theorem spells_word (starts : startsWord c) (continues : s.all continuesWord) (ends : EndsWord rest) :
    Spells rest (wordToken (String.ofList (c :: s))) (c :: s) := by
  rcases wordToken_cases (String.ofList (c :: s)) with listed | ⟨free, same⟩
  · have spells := Spells.keyword listed (endsWord_iff.mp ends)
    rwa [String.toList_ofList] at spells
  · rw [same]
    exact .ident (startsWord_iff.mp starts) (all_continuesWord_iff.mp continues) free
      (endsWord_iff.mp ends)

theorem Blocks.tokenize_eq (blocks : Blocks offset s error) : tokenize offset s = .error error := by
  cases blocks with
  | char dark unmarked unquoted wordless =>
      rw [tokenize, if_neg dark]
      simp only [punctuation?_eq_none_iff.mpr unmarked, if_neg (mt isQuote_iff.mp unquoted),
        if_neg (mt startsWord_iff.mp wordless)]
  | @quote quote rest opens unclosed =>
      have unread : readQuoted quote rest = none := by
        cases read : readQuoted quote rest with
        | none => rfl
        | some quoted =>
            obtain ⟨inside, split, quotes⟩ := exists_quotes read
            exact absurd split (unclosed inside quoted.value quoted.rest quotes)
      rw [tokenize, if_neg (not_isBlank_of_quote opens)]
      simp only [punctuation?_of_quote opens, if_pos (isQuote_iff.mpr opens)]
      split
      · rfl
      · rename_i read
        cases unread.symm.trans read

/-- A tiled text falls into the tokens that it is tiled with and into those of what is left. -/
theorem Tiles.tokenize_eq (tiles : Tiles offset s located last rest) :
    tokenize offset s = (tokenize last rest).map (located ++ ·) := by
  induction tiles with
  | @nil offset rest => cases tokenize offset rest <;> rfl
  | blank blank tiles ih => rw [tokenize_of_blank blank, ih]
  | @token offset last token lexeme s rest located spells tiles ih =>
      rw [spells.tokenize_eq, ih]
      cases tokenize last rest <;> rfl

theorem Tiles.split (tiles : Tiles offset s located last rest) :
    ∃ front, s = front ++ rest ∧ last = offset + byteCount front := by
  induction tiles with
  | nil => exact ⟨[], rfl, rfl⟩
  | @blank offset last c s rest located blank tiles ih =>
      obtain ⟨front, rfl, distance⟩ := ih
      exact ⟨c :: front, rfl, by rw [distance, byteCount_cons, Nat.add_assoc]⟩
  | @token offset last token lexeme s rest located spells tiles ih =>
      obtain ⟨front, rfl, distance⟩ := ih
      exact ⟨lexeme ++ front, by rw [List.append_assoc],
        by rw [distance, byteCount_append, Nat.add_assoc]⟩

/-- Blanks and tokens lead to the end of a text or to where it is blocked. -/
theorem exists_tiles (offset : Nat) (s : List Char) :
    ∃ located last rest, Tiles offset s located last rest ∧
      (rest = [] ∨ ∃ error, Blocks last rest error) := by
  fun_induction tokenize offset s with
  | case1 offset => exact ⟨[], offset, [], .nil, .inl rfl⟩
  | case2 offset c rest blank ih =>
      obtain ⟨located, last, left, tiles, ends⟩ := ih
      exact ⟨located, last, left, tiles.blank blank, ends⟩
  | case3 offset c rest dark token mark ih =>
      obtain ⟨located, last, left, tiles, ends⟩ := ih
      exact ⟨_, last, left, tiles.token (.mark (punctuation?_eq_some_iff.mp mark)), ends⟩
  | case4 offset c rest dark unmarked opens unread =>
      have opens := isQuote_iff.mp opens
      refine ⟨[], offset, c :: rest, .nil, .inr ⟨_, .quote opens ?_⟩⟩
      rintro inside value behind quotes rfl
      rw [quotes.readQuoted_eq (ne_backslash_of_quote opens)] at unread
      cases unread
  | case5 offset c rest dark unmarked opens quoted read ih =>
      obtain ⟨located, last, left, tiles, ends⟩ := ih
      obtain ⟨inside, rfl, quotes⟩ := exists_quotes read
      have opens := isQuote_iff.mp opens
      have bytes : byteCount (inside ++ [c]) = quoted.bytes := by
        rw [quotes.readQuoted_eq (ne_backslash_of_quote opens), Option.some_inj] at read
        exact congrArg QuotedText.bytes read
      have behind : offset + c.utf8Size + quoted.bytes =
          offset + byteCount (c :: (inside ++ [c])) := by
        rw [byteCount_cons, bytes, Nat.add_assoc]
      rw [behind] at tiles
      have whole := tiles.token (.quoted opens quotes)
      rw [List.cons_append, List.append_assoc] at whole
      exact ⟨_, last, left, whole, ends⟩
  | case6 offset c rest dark unmarked unquoted starts word ih =>
      obtain ⟨located, last, left, tiles, ends⟩ := ih
      have spells : Spells (rest.dropWhile continuesWord) (wordToken (String.ofList word)) word :=
        spells_word starts List.all_takeWhile (endsWord_dropWhile rest)
      have whole := tiles.token spells
      rw [List.cons_append, List.takeWhile_append_dropWhile] at whole
      exact ⟨_, last, left, whole, ends⟩
  | case7 offset c rest dark unmarked unquoted wordless =>
      exact ⟨[], offset, c :: rest, .nil,
        .inr ⟨_, .char dark (punctuation?_eq_none_iff.mp unmarked) (mt isQuote_iff.mpr unquoted)
          (mt startsWord_iff.mpr wordless)⟩⟩

theorem Tiles.tokenize_eq_ok (tiles : Tiles offset s located last []) :
    tokenize offset s = .ok located := by
  rw [tiles.tokenize_eq, tokenize_nil, Except.map, List.append_nil]

theorem Tiles.tokenize_eq_error (tiles : Tiles offset s located last rest)
    (blocks : Blocks last rest error) : tokenize offset s = .error error := by
  rw [tiles.tokenize_eq, blocks.tokenize_eq, Except.map]

theorem tokenize_eq_ok_iff :
    tokenize offset s = .ok located ↔ Tiles offset s located (offset + byteCount s) [] := by
  refine ⟨fun lexed => ?_, Tiles.tokenize_eq_ok⟩
  obtain ⟨others, last, rest, tiles, rfl | ⟨error, blocks⟩⟩ := exists_tiles offset s
  · obtain ⟨front, split, distance⟩ := tiles.split
    rw [List.append_nil] at split
    cases lexed.symm.trans tiles.tokenize_eq_ok
    rwa [split, ← distance, ← split]
  · cases lexed.symm.trans (tiles.tokenize_eq_error blocks)

theorem tokenize_eq_error_iff :
    tokenize offset s = .error error ↔
      ∃ located last rest, Tiles offset s located last rest ∧ Blocks last rest error := by
  constructor
  · intro failed
    obtain ⟨others, last, rest, tiles, rfl | ⟨reason, blocks⟩⟩ := exists_tiles offset s
    · cases failed.symm.trans tiles.tokenize_eq_ok
    · cases failed.symm.trans (tiles.tokenize_eq_error blocks)
      exact ⟨others, last, rest, tiles, blocks⟩
  · rintro ⟨others, last, rest, tiles, blocks⟩
    exact tiles.tokenize_eq_error blocks

theorem Tiles.trans {next : Nat} (tiles : Tiles offset s located last rest)
    (further : Tiles last rest others next other) : Tiles offset s (located ++ others) next other := by
  induction tiles with
  | nil => exact further
  | blank blank tiles ih => exact (ih further).blank blank
  | token spells tiles ih => exact (ih further).token spells

end Reading

section Position

theorem eq_nil_of_byteCount (none : byteCount s = 0) : s = [] := by
  cases s with
  | nil => rfl
  | cons c s =>
      have positive := c.utf8Size_pos
      rw [byteCount_cons] at none
      omega

/-- A text is cut in one way only behind so many bytes. -/
theorem append_inj_of_byteCount (same : front ++ back = other ++ rest)
    (bytes : byteCount front = byteCount other) : back = rest := by
  rcases List.append_eq_append_iff.mp same with ⟨between, rfl, rfl⟩ | ⟨between, rfl, rfl⟩
  · rw [byteCount_append] at bytes
    rw [eq_nil_of_byteCount (s := between) (by omega), List.nil_append]
  · rw [byteCount_append] at bytes
    rw [eq_nil_of_byteCount (s := between) (by omega), List.nil_append]

theorem Tiles.rest_unique (tiles : Tiles offset s located last rest)
    (alike : Tiles offset s others last other) : rest = other := by
  obtain ⟨front, split, distance⟩ := tiles.split
  obtain ⟨lead, again, place⟩ := alike.split
  exact append_inj_of_byteCount (split.symm.trans again) (by omega)

theorem Blocks.offset_unique {next : Nat} (blocks : Blocks offset s error)
    (again : Blocks next other error) : offset = next := by
  cases blocks <;> cases again <;> rfl

/-- Blanks and tokens lead no further than to where a text is blocked. -/
theorem Tiles.suffix_of_blocks {next : Nat} (tiles : Tiles offset s located last rest)
    (blocks : Blocks last rest error) (reaches : Tiles offset s others next other) :
    rest <:+ other := by
  obtain ⟨more, final, left, further, rfl | ⟨reason, stops⟩⟩ := exists_tiles next other
  · have whole := (reaches.trans further).tokenize_eq_ok
    cases whole.symm.trans (tiles.tokenize_eq_error blocks)
  · have stopped := (reaches.trans further).tokenize_eq_error stops
    cases stopped.symm.trans (tiles.tokenize_eq_error blocks)
    cases stops.offset_unique blocks
    obtain ⟨front, split, -⟩ := further.split
    rw [tiles.rest_unique (reaches.trans further)]
    exact ⟨front, split.symm⟩

end Position

section Words

theorem continuesWord_of_isBlank (blank : Text.isBlank c) : continuesWord c = false := by
  have letter : Text.isAlphabetic c = false :=
    Text.inRanges_eq_false_of_apart (by decide +kernel) blank
  have number : Text.isNumeric c = false :=
    Text.inRanges_eq_false_of_apart (by decide +kernel) blank
  have underscore : c ≠ '_' := by
    rintro rfl
    revert blank
    decide
  simp [continuesWord, Text.isAlphanumeric, letter, number, underscore]

theorem endsWord_append_of_ne_nil (ends : EndsWord s) (some : s ≠ []) : EndsWord (s ++ other) := by
  cases s with
  | nil => exact absurd rfl some
  | cons first s => exact ends

theorem Spells.ne_nil (spells : Spells rest token lexeme) : lexeme ≠ [] := by
  cases spells with
  | keyword listed ends =>
      simp only [keywordTokens, List.mem_cons, List.not_mem_nil, or_false, Prod.mk.injEq] at listed
      rcases listed with ⟨rfl, rfl⟩ | ⟨rfl, rfl⟩ | ⟨rfl, rfl⟩ <;> decide
  | _ => exact List.cons_ne_nil _ _

/-- No word goes on over the end of a token. -/
theorem Spells.endsWord (spells : Spells rest token lexeme) :
    EndsWord lexeme.reverse ∨ EndsWord rest := by
  cases spells with
  | mark listed =>
      have all : ∀ entry ∈ punctuation, entry.1 ∈ marks := by decide
      exact .inl (endsWord_mark (all _ listed))
  | @quoted quote inside value opens quotes =>
      rw [← List.cons_append, List.reverse_append]
      exact .inl (endsWord_mark (mem_marks_of_quote opens))
  | keyword listed ends => exact .inr (endsWord_iff.mpr ends)
  | ident starts continues free ends => exact .inr (endsWord_iff.mpr ends)

theorem not_endsWord (word : s.all continuesWord) (some : s ≠ []) : ¬ EndsWord s := by
  intro ends
  cases s with
  | nil => exact some rfl
  | cons c s =>
      have continues := List.all_eq_true.mp word c (.head _)
      rw [ends c rfl] at continues
      cases continues

/-- A token that is a word ends where its word does. -/
theorem Spells.endsWord_of_all (spells : Spells rest token lexeme) (word : lexeme.all continuesWord) :
    EndsWord rest := by
  refine spells.endsWord.resolve_left (not_endsWord ?_ (mt List.reverse_eq_nil_iff.mp spells.ne_nil))
  rwa [List.all_reverse]

/-- Each token is spelled at its offset, and a word among them is not the end of a longer word. -/
theorem Tiles.exists_lexeme (tiles : Tiles offset s located last rest) {place : Located}
    (member : place ∈ located) :
    ∃ front lexeme back, s = front ++ (lexeme ++ back) ∧ place.offset = offset + byteCount front ∧
      Spells back place.token lexeme ∧ (lexeme.all continuesWord → EndsWord front.reverse) := by
  induction tiles with
  | nil => cases member
  | @blank offset last c s rest located blank tiles ih =>
      obtain ⟨front, lexeme, back, rfl, distance, spells, begins⟩ := ih member
      refine ⟨c :: front, lexeme, back, rfl, ?_, spells, fun word => ?_⟩
      · rw [distance, byteCount_cons, Nat.add_assoc]
      · rw [List.reverse_cons]
        exact endsWord_append (begins word) (endsWord_cons (continuesWord_of_isBlank blank))
  | @token offset last token lexeme s rest located first tiles ih =>
      rcases List.mem_cons.mp member with rfl | member
      · exact ⟨[], lexeme, s, rfl, rfl, first, fun _ => endsWord_nil⟩
      · obtain ⟨front, further, back, rfl, distance, spells, begins⟩ := ih member
        refine ⟨lexeme ++ front, further, back, by rw [List.append_assoc], ?_, spells, fun word => ?_⟩
        · rw [distance, byteCount_append, Nat.add_assoc]
        · rw [List.reverse_append]
          cases front with
          | cons c front =>
              exact endsWord_append_of_ne_nil (begins word)
                (mt List.reverse_eq_nil_iff.mp (List.cons_ne_nil c front))
          | nil =>
              -- The word follows at once, so what stands in front of it cannot be a word.
              refine first.endsWord.resolve_right fun ends => ?_
              exact not_endsWord word spells.ne_nil (endsWord_of_append ends)

end Words

section Source

variable {source : String}

theorem eq_ofList_append (split : source.toList = front ++ back) :
    source = .ofList front ++ .ofList back := by
  rw [← String.ofList_append, ← split, String.ofList_toList]

theorem isValid_of_split (split : source.toList = front ++ back) :
    String.Pos.Raw.IsValid source ⟨byteCount front⟩ := by
  rw [← utf8ByteSize_ofList]
  exact String.Pos.Raw.isValid_iff_exists_append.mpr ⟨_, _, eq_ofList_append split, rfl⟩

/-- A text falls into tokens exactly if blanks and these tokens make it up. Each of them is spelled at
its offset, and those that are words are not part of longer words. A text is refused exactly if blanks
and tokens lead to where neither of them stands; no others lead any further. -/
theorem tokenize_tiles (source : String) :
    (∀ located, tokenize 0 source.toList = .ok located ↔
      Tiles 0 source.toList located source.utf8ByteSize []) ∧
    (∀ located, tokenize 0 source.toList = .ok located → ∀ place ∈ located,
      String.Pos.Raw.IsValid source ⟨place.offset⟩ ∧
        ∃ front lexeme back : String, source = front ++ lexeme ++ back ∧
          front.utf8ByteSize = place.offset ∧ Spells back.toList place.token lexeme.toList ∧
          ((∀ c ∈ lexeme.toList, InWord c) →
            EndsRun front.toList.reverse ∧ EndsRun back.toList)) ∧
    ∀ error, tokenize 0 source.toList = .error error ↔
      ∃ (front back : String) (located : List Located), source = front ++ back ∧
        String.Pos.Raw.IsValid source ⟨front.utf8ByteSize⟩ ∧
        Tiles 0 source.toList located front.utf8ByteSize back.toList ∧
        Blocks front.utf8ByteSize back.toList error ∧
        ∀ others next further, Tiles 0 source.toList others next further →
          back.toList <:+ further := by
  have size : 0 + byteCount source.toList = source.utf8ByteSize := by
    rw [Nat.zero_add, ← utf8ByteSize_ofList, String.ofList_toList]
  refine ⟨fun located => ?_, fun located lexed place member => ?_, fun error => ?_⟩
  · rw [tokenize_eq_ok_iff, size]
  · obtain ⟨front, lexeme, back, split, distance, spells, begins⟩ :=
      (tokenize_eq_ok_iff.mp lexed).exists_lexeme member
    rw [Nat.zero_add] at distance
    refine ⟨distance ▸ isValid_of_split split, .ofList front, .ofList lexeme, .ofList back, ?_, ?_, ?_⟩
    · rw [eq_ofList_append split, String.ofList_append, String.append_assoc]
    · rw [utf8ByteSize_ofList, distance]
    · simp only [String.toList_ofList]
      refine ⟨spells, fun word => ?_⟩
      have word := all_continuesWord_iff.mpr word
      exact ⟨endsWord_iff.mp (begins word), endsWord_iff.mp (spells.endsWord_of_all word)⟩
  · rw [tokenize_eq_error_iff]
    constructor
    · rintro ⟨located, last, rest, tiles, blocks⟩
      obtain ⟨front, split, distance⟩ := tiles.split
      rw [Nat.zero_add] at distance
      refine ⟨.ofList front, .ofList rest, located, eq_ofList_append split, ?_⟩
      rw [utf8ByteSize_ofList, ← distance, String.toList_ofList]
      exact ⟨distance ▸ isValid_of_split split, tiles, blocks,
        fun others next further => tiles.suffix_of_blocks blocks⟩
    · rintro ⟨front, back, located, -, -, tiles, blocks, -⟩
      exact ⟨located, _, _, tiles, blocks⟩

theorem tokenize_tiles_quoted :
    (Tiles 0 "é+'it\\'s' or".toList [⟨.ident "é", 0⟩, ⟨.plus, 2⟩, ⟨.str "it's", 3⟩, ⟨.or, 11⟩] 13 [] ∧
      ∃ front lexeme back : String, "é+'it\\'s' or" = front ++ lexeme ++ back ∧
        front.utf8ByteSize = 3 ∧ Spells back.toList (.str "it's") lexeme.toList) ∧
    ∃ (front back : String) (located : List Located), "é+'it\\'" = front ++ back ∧
      Tiles 0 "é+'it\\'".toList located front.utf8ByteSize back.toList ∧
      Blocks front.utf8ByteSize back.toList (.unterminatedString 3) := by
  have lexed : tokenize 0 "é+'it\\'s' or".toList =
      .ok [⟨.ident "é", 0⟩, ⟨.plus, 2⟩, ⟨.str "it's", 3⟩, ⟨.or, 11⟩] := by
    decide +kernel
  have failed : tokenize 0 "é+'it\\'".toList = .error (.unterminatedString 3) := by
    decide +kernel
  obtain ⟨whole, places, -⟩ := tokenize_tiles "é+'it\\'s' or"
  obtain ⟨-, -, refused⟩ := tokenize_tiles "é+'it\\'"
  obtain ⟨-, front, lexeme, back, split, start, spells, -⟩ :=
    places _ lexed ⟨.str "it's", 3⟩ (by decide)
  obtain ⟨lead, left, located, cut, -, tiles, blocks, -⟩ := (refused _).mp failed
  exact ⟨⟨(whole _).mp lexed, front, lexeme, back, split, start, spells⟩,
    lead, left, located, cut, tiles, blocks⟩

end Source

end Narration.Expr
