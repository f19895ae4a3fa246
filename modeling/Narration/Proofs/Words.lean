import Narration.Proofs.Casing
import Narration.Proofs.RoundTrip
/-! The words of a text and the names that they stand for. The main result: such a name is a word of its
own again, unless its word starts with `İ` or is lowered to a keyword. -/
namespace Narration.Expr

def Token.name? : Token → Option String
  | .ident name => some name
  | _ => none

/-- The names of a text as they are written there, from left to right. -/
def identifiers (source : String) : List String :=
  match tokenize 0 source.toList with
  | .ok located => (located.map Located.token).filterMap Token.name?
  | .error _ => []

/-- The words that become keywords when their first letter is lowered. -/
def capitalKeywords : List String := ["Or", "And", "Pause"]

def startsDotted (word : String) : Bool := word.toList.head? == some 'İ'

/-- Whether the name that a word stands for is read as this name again. -/
def isStable (word : String) : Bool := !capitalKeywords.contains word && !startsDotted word

section Words

variable {word : String}

theorem wordToken_of_mem (keyword : word ∈ keywords) :
    wordToken word ∈ [.or, .and, .pause] := by
  simp only [keywords, List.mem_cons, List.not_mem_nil, or_false] at keyword
  rcases keyword with rfl | rfl | rfl <;> decide

theorem name?_wordToken {name : String} (named : (wordToken word).name? = some name) :
    name = word ∧ word ∉ keywords := by
  by_cases keyword : word ∈ keywords
  · have among := wordToken_of_mem keyword
    generalize wordToken word = token at among named
    simp only [List.mem_cons, List.not_mem_nil, or_false] at among
    rcases among with rfl | rfl | rfl <;> cases named
  · rw [wordToken_of_not_mem keyword] at named
    cases named
    exact ⟨rfl, keyword⟩

theorem name?_of_punctuation {c : Char} {token : Token} (mark : punctuation? c = some token) :
    token.name? = none := by
  unfold punctuation? at mark
  repeat' split at mark
  all_goals cases mark
  all_goals rfl

theorem isWord_cons {c : Char} {rest : List Char} (starts : startsWord c)
    (continues : rest.all continuesWord) : isWord ⟨String.ofList (c :: rest)⟩ := by
  simp only [isWord, String.toList_ofList, starts, continues, Bool.and_self]

/-- The names of a text are words and no keywords. -/
theorem isWord_of_tokenize {offset : Nat} {s : List Char} {located : List Located}
    (lexed : tokenize offset s = .ok located) :
    ∀ entry ∈ located, ∀ word, entry.token.name? = some word → isWord ⟨word⟩ ∧ word ∉ keywords := by
  fun_induction tokenize offset s generalizing located with
  | case1 offset =>
      cases lexed
      exact nofun
  | case2 offset c rest blank ih => exact ih lexed
  | case3 offset c rest dark token mark ih =>
      obtain ⟨others, read, rfl⟩ := map_eq_ok lexed
      refine List.forall_mem_cons.mpr ⟨fun word named => ?_, ih read⟩
      rw [name?_of_punctuation mark] at named
      cases named
  | case4 => cases lexed
  | case5 offset c rest dark unmarked quote text closed ih =>
      obtain ⟨others, read, rfl⟩ := map_eq_ok lexed
      exact List.forall_mem_cons.mpr ⟨nofun, ih read⟩
  | case6 offset c rest dark unmarked unquoted starts letters =>
      rename_i ih
      obtain ⟨others, read, rfl⟩ := map_eq_ok lexed
      refine List.forall_mem_cons.mpr ⟨fun word named => ?_, ih read⟩
      obtain ⟨rfl, free⟩ := name?_wordToken named
      exact ⟨isWord_cons starts List.all_takeWhile, free⟩
  | case7 => cases lexed

end Words

section Normalized

variable {word : String}

theorem isWord_iff {name : QuantityName} :
    isWord name ↔
      ∃ c rest, name.text.toList = c :: rest ∧ startsWord c ∧ rest.all continuesWord := by
  cases spelled : name.text.toList with
  | nil => simp [isWord, spelled]
  | cons first others =>
      simp only [isWord, spelled, Bool.and_eq_true]
      constructor
      · intro word
        exact ⟨first, others, rfl, word⟩
      · rintro ⟨c, rest, same, word⟩
        cases same
        exact word

theorem toList_normalize (word : String) :
    (QuantityName.normalize word).text.toList = Text.lowerFirst word.toList := by
  rw [QuantityName.normalize, String.toList_ofList]

/-- A word that does not start with `İ` stands for a name that is a word and is normalized already. -/
theorem isWord_normalize (spoken : isWord ⟨word⟩) (plain : startsDotted word = false) :
    isWord (.normalize word) ∧
      QuantityName.normalize (QuantityName.normalize word).text = .normalize word := by
  obtain ⟨c, rest, spelled, starts, continues⟩ := isWord_iff.mp spoken
  have plain : c ≠ 'İ' := by simpa [startsDotted, spelled] using plain
  obtain ⟨d, lowered, again, letter⟩ := Text.lowerChar_stable plain
  have lower : (QuantityName.normalize word).text.toList = d :: rest := by
    rw [toList_normalize, spelled, Text.lowerFirst, lowered]
    rfl
  have begins : startsWord d := by
    rcases letter with letter | rfl
    · exact Bool.or_eq_true_iff.mpr (.inl letter)
    · exact starts
  refine ⟨isWord_iff.mpr ⟨d, rest, lower, begins, continues⟩, ?_⟩
  have same : QuantityName.normalize (QuantityName.normalize word).text =
      ⟨String.ofList (d :: rest)⟩ := by
    rw [QuantityName.normalize, lower, Text.lowerFirst, again]
    rfl
  rw [same, ← lower, String.ofList_toList]

/-- A word is lowered to a keyword only if it is this keyword or its capital form. -/
theorem lowerFirst_keyword {first : Char} {tail : List Char} (plain : startsDotted word = false)
    (lowered : Text.lowerFirst word.toList = first :: tail) (among : first ∈ ['a', 'o', 'p']) :
    word = String.ofList (first :: tail) ∨
      word = String.ofList (Char.ofNat (first.toNat - 32) :: tail) := by
  rw [← String.ofList_toList (s := word)]
  cases spelled : word.toList with
  | nil =>
      rw [spelled] at lowered
      cases lowered
  | cons c rest =>
      have plain : c ≠ 'İ' := by simpa [startsDotted, spelled] using plain
      obtain ⟨d, lower, -⟩ := Text.lowerChar_stable plain
      rw [spelled, Text.lowerFirst, lower] at lowered
      cases lowered
      rcases Text.eq_or_eq_of_lowerChar lower among with rfl | capital
      · exact .inl rfl
      · have shifted : first.toNat - 32 = c.toNat := by omega
        rw [shifted, Char.ofNat_toNat]
        exact .inr rfl

/-- Only the capital keywords are lowered to keywords. -/
theorem normalize_mem_keywords (plain : startsDotted word = false) (free : word ∉ keywords) :
    (QuantityName.normalize word).text ∈ keywords ↔ word ∈ capitalKeywords := by
  constructor
  · intro keyword
    have lowered := toList_normalize word
    simp only [keywords, List.mem_cons, List.not_mem_nil, or_false] at keyword
    rcases keyword with same | same | same <;> rw [same] at lowered
    · rcases lowerFirst_keyword plain lowered.symm (by decide) with rfl | rfl
      · exact absurd (by decide) free
      · decide
    · rcases lowerFirst_keyword plain lowered.symm (by decide) with rfl | rfl
      · exact absurd (by decide) free
      · decide
    · rcases lowerFirst_keyword plain lowered.symm (by decide) with rfl | rfl
      · exact absurd (by decide) free
      · decide
  · intro capital
    have lowers : capitalKeywords.all fun word =>
      keywords.contains (QuantityName.normalize word).text := by decide
    simpa using List.all_eq_true.mp lowers word capital

theorem isOwnWord_normalize (spoken : isWord ⟨word⟩) (free : word ∉ keywords)
    (stable : isStable word) : isOwnWord (.normalize word) := by
  simp only [isStable, Bool.and_eq_true, Bool.not_eq_true', List.contains_eq_mem,
    decide_eq_false_iff_not] at stable
  obtain ⟨small, plain⟩ := stable
  obtain ⟨again, same⟩ := isWord_normalize spoken plain
  exact isOwnWord_iff.mpr ⟨again, fun keyword => small ((normalize_mem_keywords plain free).mp keyword),
    same⟩

/-- Names that lowering makes of words that start with `İ`. The dot is no part of a word. -/
def isDotted (name : QuantityName) : Prop := ∃ rest, name.text.toList = 'i' :: '\u0307' :: rest

theorem isDotted_normalize (dotted : startsDotted word) : isDotted (.normalize word) := by
  cases spelled : word.toList with
  | nil => simp [startsDotted, spelled] at dotted
  | cons c rest =>
      have capital : c = 'İ' := by simpa [startsDotted, spelled] using dotted
      refine ⟨rest, ?_⟩
      rw [toList_normalize, spelled, capital]
      rfl

end Normalized

end Narration.Expr
