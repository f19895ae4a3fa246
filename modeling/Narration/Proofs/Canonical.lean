import Narration.Proofs.Acceptance
import Narration.Proofs.Words
/-! Whether the spelling of what was read can be read again. The main result: it can, and gives the same
expression, unless a name of the text is lowered to a keyword or starts with `İ`. -/
namespace Narration.Expr

section Derived

variable {tokens : List Token} {expr : Expr} {items : List Fragment} {phrase : Phrase}

theorem Items.names (inside : Items tokens items) : tokens.filterMap Token.name? = [] := by
  induction inside with
  | last is => cases is <;> rfl
  | more is rest ih => cases is <;> exact ih

theorem Items.isSpellable (inside : Items tokens items) : ∀ item ∈ items, item.isSpellable := by
  induction inside with
  | last is => cases is <;> simp [Fragment.isSpellable]
  | more is rest ih => cases is <;> simpa [Fragment.isSpellable] using ih

/-- What was read refers to the names of its tokens. -/
theorem Derives.references (derived : Derives phrase tokens expr) :
    expr.references = (tokens.filterMap Token.name?).map .normalize := by
  induction derived with
  | name name => rfl
  | text value => rfl
  | emptyList => rfl
  | list inside =>
      rw [List.cons_append, List.filterMap_cons_none rfl, List.filterMap_append, inside.names]
      rfl
  | enclosed inside ih =>
      rw [List.cons_append, List.filterMap_cons_none rfl, List.filterMap_append, ih]
      exact congrArg (List.map QuantityName.normalize) (List.append_nil _).symm
  | sum operand ih => exact ih
  | product sum ih => exact ih
  | whole product ih => exact ih
  | plus first second ihl ihr | and first second ihl ihr | or first second ihl ihr =>
      rw [Expr.references, List.filterMap_append, List.filterMap_cons_none rfl, List.map_append, ihl,
        ihr]

/-- What was read has a spelling for every fragment. -/
theorem Derives.spellable (derived : Derives phrase tokens expr) : expr.spellable = expr := by
  induction derived with
  | name name => rfl
  | text value => rfl
  | emptyList => rfl
  | list inside => rw [Expr.spellable, List.filter_eq_self.mpr inside.isSpellable]
  | enclosed inside ih => exact ih
  | sum operand ih => exact ih
  | product sum ih => exact ih
  | whole product ih => exact ih
  | plus first second ihl ihr | and first second ihl ihr | or first second ihl ihr =>
      rw [Expr.spellable, ihl, ihr]

end Derived

section Placement

/-- Whether an operand can begin with the token. -/
def Token.opensOperand : Token → Bool
  | .ident _ | .str _ | .openBracket | .openParen => true
  | _ => false

/-- Whether an operand has to follow the token. -/
def Token.asksOperand : Token → Bool
  | .plus | .or | .and | .openParen => true
  | _ => false

/-- Goes over one token and tells whether an operand has to follow; `none` if one has to begin here and
does not. -/
def Token.place? (asked : Bool) (token : Token) : Option Bool :=
  if asked && !token.opensOperand then none else some token.asksOperand

def places? (asked : Bool) (tokens : List Token) : Option Bool := tokens.foldlM Token.place? asked

variable {tokens before behind : List Token} {operator : Token}

theorem places?_append (asked : Bool) :
    places? asked (before ++ behind) = (places? asked before).bind (places? · behind) :=
  List.foldlM_append

theorem Items.places {items : List Fragment} (inside : Items tokens items) :
    places? false tokens = some false := by
  induction inside with
  | last is => cases is <;> rfl
  | more is rest ih => cases is <;> exact ih

theorem places?_enclosed (asked : Bool) (placed : places? true tokens = some false) :
    places? asked (.openParen :: tokens ++ [.closeParen]) = some false := by
  have opened : places? asked [.openParen] = some true := by cases asked <;> rfl
  rw [← List.singleton_append, places?_append, places?_append, opened, Option.bind_some, placed]
  rfl

theorem places?_operator (asks : operator.asksOperand) (first : places? true before = some false)
    (second : places? true behind = some false) :
    places? true (before ++ operator :: behind) = some false := by
  have turned : places? false [operator] = some true := congrArg some asks
  rw [places?_append, first, Option.bind_some, ← List.singleton_append, places?_append, turned]
  exact second

/-- In what the grammar derives, an operand begins wherever one has to. -/
theorem Derives.places {phrase : Phrase} {expr : Expr} (derived : Derives phrase tokens expr) :
    places? true tokens = some false := by
  induction derived with
  | name name => rfl
  | text value => rfl
  | emptyList => rfl
  | list inside =>
      rw [← List.singleton_append, places?_append, places?_append]
      exact congrArg (Option.bind · (places? · [.closeBracket])) inside.places
  | enclosed inside ih => exact places?_enclosed true ih
  | sum operand ih => exact ih
  | product sum ih => exact ih
  | whole product ih => exact ih
  | plus first second ihl ihr => exact places?_operator rfl ihl ihr
  | and first second ihl ihr => exact places?_operator rfl ihl ihr
  | or first second ihl ihr => exact places?_operator rfl ihl ihr

theorem places?_enclosedTokens_isNone (needed : Bool) (misplaced : places? true tokens = none) :
    places? true (enclosedTokens needed tokens) = none := by
  cases needed with
  | false => exact misplaced
  | true =>
      rw [enclosedTokens, if_pos rfl, ← List.singleton_append, places?_append, places?_append]
      exact congrArg (Option.bind · (places? · [.closeParen])) misplaced

theorem places?_operator_eq_none (asks : operator.asksOperand) (joins : operator.opensOperand = false)
    (misplaced : places? true before = none ∨ places? true behind = none) :
    places? true (before ++ operator :: behind) = none := by
  rw [places?_append]
  cases placed : places? true before with
  | none => rfl
  | some asked =>
      have later : places? true behind = none := by
        rcases misplaced with earlier | later
        · rw [placed] at earlier
          cases earlier
        · exact later
      rw [Option.bind_some, ← List.singleton_append, places?_append]
      cases asked with
      | true =>
          have stuck : places? true [operator] = none := by
            rw [places?, List.foldlM_cons, Token.place?, joins]
            rfl
          rw [stuck]
          rfl
      | false =>
          have turned : places? false [operator] = some true := congrArg some asks
          rw [turned]
          exact later

/-- A keyword among the names of a spelling stands where an operand has to begin. -/
theorem places?_tokens {expr : Expr} {name : QuantityName} (occurs : name ∈ expr.references)
    (keyword : name.text ∈ keywords) : places? true (expr.tokens.map Token.reread) = none := by
  induction expr with
  | literal fragments => cases occurs
  | ref other =>
      cases List.mem_singleton.mp occurs
      have among := wordToken_of_mem keyword
      change places? true [wordToken name.text] = none
      generalize wordToken name.text = token at among ⊢
      simp only [List.mem_cons, List.not_mem_nil, or_false] at among
      rcases among with rfl | rfl | rfl <;> rfl
  | concat left right ihl ihr | or left right ihl ihr | and left right ihl ihr =>
      rw [tokens, List.map_append, List.map_cons, map_enclosedTokens, map_enclosedTokens]
      apply places?_operator_eq_none rfl rfl
      rcases List.mem_append.mp occurs with onLeft | onRight
      · exact .inl (places?_enclosedTokens_isNone _ (ihl onLeft))
      · exact .inr (places?_enclosedTokens_isNone _ (ihr onRight))

end Placement

section Refusal

/-- Whether `s` does not fall into tokens, wherever it stands. -/
def Breaks (s : List Char) : Prop := ∀ offset, ∃ error, tokenize offset s = .error error

variable {s text rest : List Char} {tokens : List Token}

theorem Falls.breaks (falls : Falls text tokens rest) (breaks : Breaks rest) : Breaks text := by
  intro offset
  obtain ⟨next, located, -, split⟩ := falls offset
  obtain ⟨error, broken⟩ := breaks next
  refine ⟨error, ?_⟩
  rw [split, broken]
  rfl

theorem breaks_dot : Breaks ('\u0307' :: s) := by
  intro offset
  refine ⟨.unexpectedChar '\u0307' offset, ?_⟩
  have unmarked : punctuation? '\u0307' = none := rfl
  have starts : ¬ startsWord '\u0307' := by decide +kernel
  rw [tokenize, if_neg (by decide)]
  simp only [unmarked]
  rw [if_neg (by decide), if_neg starts]

theorem breaks_name {name : QuantityName} (dotted : isDotted name) :
    Breaks (name.text.toList ++ s) := by
  obtain ⟨rest, spelled⟩ := dotted
  rw [spelled]
  have ends : EndsWord ('\u0307' :: (rest ++ s)) := endsWord_cons (by decide +kernel)
  exact (falls_word (c := 'i') [] ends (by decide +kernel) rfl).breaks breaks_dot

theorem breaks_enclosedIf (needed : Bool) {spelling : List Char}
    (inside : ∀ {s}, Breaks (spelling ++ s)) : Breaks (enclosedIf needed spelling ++ s) := by
  cases needed with
  | false => exact inside
  | true =>
      have opened : Breaks ('(' :: (spelling ++ (')' :: s))) :=
        (falls_punctuation (c := '(') rfl).breaks inside
      simpa [enclosedIf] using opened

/-- Whether one of two operands does not fall into tokens, while all before it does. -/
def BreaksEither (left right : Expr) : Prop :=
  (∀ {s}, Breaks (left.spelling ++ s)) ∨
    (∀ name ∈ left.references, isWord name) ∧ ∀ {s}, Breaks (right.spelling ++ s)

theorem breaks_joined {operator : List Char} {token : Token} {left right : Expr} (outer inner : Bool)
    (joins : ∀ {s}, Falls (' ' :: operator ++ s) [token] s) (broken : BreaksEither left right) :
    Breaks (enclosedIf outer left.spelling ++ ' ' :: operator ++ enclosedIf inner right.spelling ++
      s) := by
  simp only [List.append_assoc]
  rcases broken with onLeft | ⟨words, onRight⟩
  · exact breaks_enclosedIf outer onLeft
  · have behind : Breaks (' ' :: operator ++ (enclosedIf inner right.spelling ++ s)) :=
      joins.breaks (breaks_enclosedIf inner onRight)
    have set : EndsWord (' ' :: operator ++ (enclosedIf inner right.spelling ++ s)) :=
      endsWord_mark (by decide)
    have first := falls_enclosedIf outer (falls_spelling words) set
    exact first.breaks behind

theorem breaksEither_of_dotted {left right : Expr}
    (spoken : ∀ name ∈ left.references ++ right.references, isWord name ∨ isDotted name)
    (dotted : ∃ name ∈ left.references ++ right.references, isDotted name)
    (onLeft : (∀ name ∈ left.references, isWord name ∨ isDotted name) →
      (∃ name ∈ left.references, isDotted name) → ∀ {s}, Breaks (left.spelling ++ s))
    (onRight : (∀ name ∈ right.references, isWord name ∨ isDotted name) →
      (∃ name ∈ right.references, isDotted name) → ∀ {s}, Breaks (right.spelling ++ s)) :
    BreaksEither left right := by
  obtain ⟨spokenLeft, spokenRight⟩ := List.forall_mem_append.mp spoken
  by_cases early : ∃ name ∈ left.references, isDotted name
  · exact .inl (onLeft spokenLeft early)
  · have words : ∀ name ∈ left.references, isWord name := by
      intro name member
      apply (spokenLeft name member).resolve_right
      intro dot
      exact early ⟨name, member, dot⟩
    have late : ∃ name ∈ right.references, isDotted name := by
      obtain ⟨name, occurs, dot⟩ := dotted
      rcases List.mem_append.mp occurs with member | member
      · exact absurd ⟨name, member, dot⟩ early
      · exact ⟨name, member, dot⟩
    exact .inr ⟨words, onRight spokenRight late⟩

/-- A spelling with a dotted name does not fall into tokens. -/
theorem breaks_spelling {expr : Expr} (spoken : ∀ name ∈ expr.references, isWord name ∨ isDotted name)
    (dotted : ∃ name ∈ expr.references, isDotted name) : ∀ {s}, Breaks (expr.spelling ++ s) := by
  induction expr with
  | literal fragments =>
      obtain ⟨name, occurs, -⟩ := dotted
      cases occurs
  | ref other =>
      obtain ⟨name, occurs, dot⟩ := dotted
      cases List.mem_singleton.mp occurs
      exact breaks_name dot
  | concat left right ihl ihr =>
      intro s
      exact breaks_joined _ _ falls_plus (breaksEither_of_dotted spoken dotted ihl ihr)
  | or left right ihl ihr =>
      intro s
      exact breaks_joined _ _ falls_or (breaksEither_of_dotted spoken dotted ihl ihr)
  | and left right ihl ihr =>
      intro s
      exact breaks_joined _ _ falls_and (breaksEither_of_dotted spoken dotted ihl ihr)

theorem parse_of_breaks {expr : Expr} (breaks : Breaks (expr.spelling ++ [])) (again : Expr) :
    parse expr.display ≠ .ok again := by
  intro read
  obtain ⟨located, lexed, -⟩ := derives_of_parse read
  obtain ⟨error, broken⟩ := breaks 0
  rw [display, String.toList_ofList] at lexed
  rw [List.append_nil, lexed] at broken
  cases broken

/-- A spelling that is read again contains no keyword for a name. -/
theorem not_mem_keywords_of_parse {expr again : Expr} (words : ∀ name ∈ expr.references, isWord name)
    (read : parse expr.display = .ok again) : ∀ name ∈ expr.references, name.text ∉ keywords := by
  intro name occurs keyword
  have misplaced := places?_tokens occurs keyword
  have lexes := (falls_spelling words endsWord_nil).lexes lexes_nil
  rw [List.append_nil, List.append_nil] at lexes
  obtain ⟨located, lexed, same⟩ := lexes 0
  obtain ⟨others, alike, empty | derived⟩ := derives_of_parse read
  · rw [display, String.toList_ofList, lexed] at alike
    cases alike
    rw [← same, empty.1] at misplaced
    cases misplaced
  · rw [display, String.toList_ofList, lexed] at alike
    cases alike
    rw [same] at derived
    rw [derived.places] at misplaced
    cases misplaced

end Refusal

section Stability

variable {source : String} {expr : Expr}

/-- What is known of an accepted text: its names, and that the expression has nothing else without a
spelling. -/
theorem references_of_parse (accepted : parse source = .ok expr) :
    expr.references = (identifiers source).map .normalize ∧ expr.spellable = expr ∧
      ∀ word ∈ identifiers source, isWord ⟨word⟩ ∧ word ∉ keywords := by
  obtain ⟨located, lexed, empty⟩ := derives_of_parse accepted
  have named : identifiers source = (located.map Located.token).filterMap Token.name? := by
    rw [identifiers, lexed]
  refine ⟨?_, ?_, ?_⟩
  · rcases empty with ⟨rfl, rfl⟩ | derived
    · rw [named]
      rfl
    · rw [named]
      exact derived.references
  · rcases empty with ⟨rfl, rfl⟩ | derived
    · rfl
    · exact derived.spellable
  · intro word member
    rw [named, List.mem_filterMap] at member
    obtain ⟨token, listed, is⟩ := member
    obtain ⟨entry, present, rfl⟩ := List.mem_map.mp listed
    exact isWord_of_tokenize lexed entry present word is

/-- A text whose spelling is read again has stable names only. -/
theorem isStable_of_parse {again : Expr} (accepted : parse source = .ok expr)
    (read : parse expr.display = .ok again) : ∀ word ∈ identifiers source, isStable word := by
  obtain ⟨named, -, spoken⟩ := references_of_parse accepted
  have plain : ∀ word ∈ identifiers source, startsDotted word = false := by
    intro word member
    by_contra dotted
    have dotted : startsDotted word := eq_true_of_ne_false dotted
    refine parse_of_breaks (breaks_spelling ?_ ?_) again read
    · intro name occurs
      rw [named] at occurs
      obtain ⟨other, listed, rfl⟩ := List.mem_map.mp occurs
      by_cases plain : startsDotted other
      · exact .inr (isDotted_normalize plain)
      · exact .inl (isWord_normalize (spoken other listed).1 (eq_false_of_ne_true plain)).1
    · rw [named]
      exact ⟨_, List.mem_map_of_mem member, isDotted_normalize dotted⟩
  intro word member
  have words : ∀ name ∈ expr.references, isWord name := by
    intro name occurs
    rw [named] at occurs
    obtain ⟨other, listed, rfl⟩ := List.mem_map.mp occurs
    exact (isWord_normalize (spoken other listed).1 (plain other listed)).1
  have free := not_mem_keywords_of_parse words read (.normalize word)
    (by rw [named]; exact List.mem_map_of_mem member)
  rw [normalize_mem_keywords (plain word member) (spoken word member).2] at free
  simp [isStable, free, plain word member]

/-- The spelling of what was read is read again exactly if no name of the text is `Or`, `And` or `Pause`
or starts with `İ`, and then it gives the same expression. -/
theorem parse_display_iff (accepted : parse source = .ok expr) :
    (parse expr.display = .ok expr ↔ ∀ word ∈ identifiers source, isStable word) ∧
      ∀ again, parse expr.display = .ok again → again = expr := by
  obtain ⟨named, spelled, spoken⟩ := references_of_parse accepted
  have reads (stable : ∀ word ∈ identifiers source, isStable word) :
      parse expr.display = .ok expr := by
    have own : ∀ name ∈ expr.references, isOwnWord name := by
      intro name occurs
      rw [named] at occurs
      obtain ⟨word, listed, rfl⟩ := List.mem_map.mp occurs
      exact isOwnWord_normalize (spoken word listed).1 (spoken word listed).2 (stable word listed)
    rw [parse_display own, spelled]
  refine ⟨⟨isStable_of_parse accepted, reads⟩, fun again read => ?_⟩
  have same := reads (isStable_of_parse accepted read)
  rw [read] at same
  exact Except.ok.inj same

/-- Its spelling needs no parentheses, and `Name` is read as `name`. -/
def capitalized : Expr :=
  .or (.ref ⟨"name"⟩) (.concat (.ref ⟨"description"⟩) (.ref ⟨"_Größe2"⟩))

theorem ok_of_toOption {ε α : Type} {result : Except ε α} {value : α}
    (told : result.toOption = some value) : result = .ok value := by
  cases result with
  | error error => cases told
  | ok other => exact congrArg Except.ok (Option.some.inj told)

theorem parse_display_iff_capitalized :
    parse "Name or (description + _Größe2)" = .ok capitalized ∧
      parse capitalized.display = .ok capitalized := by
  have accepted : parse "Name or (description + _Größe2)" = .ok capitalized :=
    ok_of_toOption (by decide +kernel)
  exact ⟨accepted, (parse_display_iff accepted).1.mpr (by decide +kernel)⟩

/-- `Or` is a name, but the name that it stands for is spelled like the keyword. -/
theorem not_parse_display_stable :
    ¬ ∀ source expr, parse source = .ok expr → parse expr.display = .ok expr := by
  intro stable
  have accepted : parse "Or" = .ok (.ref ⟨"or"⟩) := ok_of_toOption (by decide +kernel)
  have refused : (parse (Expr.ref ⟨"or"⟩).display).toOption = none := by decide +kernel
  rw [stable "Or" (.ref ⟨"or"⟩) accepted] at refused
  cases refused

/-- The dot that is left of `İ` is no part of a word. -/
example : (parse (Expr.reference "İd").display).toOption = none := by decide +kernel

end Stability

end Narration.Expr
