import Narration.Proofs.Grammar
import Narration.Proofs.Lexing
/-! Reading the spelling of an expression gives back the expression, except for the fragments that have
no spelling. -/
namespace Narration.Expr

/-- The tokens of a spelled fragment. -/
def itemToken : Fragment → Token
  | .text value => .str value
  | .pause | .voice _ | .tone _ _ => .pause

def itemSpelling (item : Fragment) : List Char := (fragmentSpelling? item).getD []

def listTokens (items : List Fragment) : List Token := (items.map itemToken).intersperse .comma

def enclosedTokens (needed : Bool) (tokens : List Token) : List Token :=
  if needed then .openParen :: tokens ++ [.closeParen] else tokens

/-- The tokens of the spelling. -/
def tokens : Expr → List Token
  | .literal fragments =>
    .openBracket :: listTokens (fragments.filter (·.isSpellable)) ++ [.closeBracket]
  | .ref name => [.ident name.text]
  | .concat left right =>
    enclosedTokens (left.precedence < 3) left.tokens ++
      .plus :: enclosedTokens (right.precedence ≤ 3) right.tokens
  | .or left right =>
    enclosedTokens (left.precedence < 1) left.tokens ++
      .or :: enclosedTokens (right.precedence ≤ 1) right.tokens
  | .and left right =>
    enclosedTokens (left.precedence < 2) left.tokens ++
      .and :: enclosedTokens (right.precedence ≤ 2) right.tokens

/-- The expression without the fragments that have no spelling. -/
def spellable : Expr → Expr
  | .literal fragments => .literal (fragments.filter (·.isSpellable))
  | .ref name => .ref name
  | .concat left right => .concat left.spellable right.spellable
  | .or left right => .or left.spellable right.spellable
  | .and left right => .and left.spellable right.spellable

/-- What a token is read as behind the spelling: a name that is spelled like a keyword is one. -/
def Token.reread : Token → Token
  | .ident name => wordToken name
  | token => token

def keywords : List String := ["or", "and", "pause"]

/-- Whether a name is spelled as one word. -/
def isWord (name : QuantityName) : Bool :=
  match name.text.toList with
  | [] => false
  | first :: rest => startsWord first && rest.all continuesWord

/-- Whether a name is a word of its own: no keyword, and written as it is normalized. -/
def isOwnWord (name : QuantityName) : Bool :=
  match name.text.toList with
  | [] => false
  | first :: rest =>
    startsWord first && rest.all continuesWord && !keywords.contains name.text &&
      QuantityName.normalize name.text = name

theorem isOwnWord_iff {name : QuantityName} :
    isOwnWord name ↔
      isWord name ∧ name.text ∉ keywords ∧ QuantityName.normalize name.text = name := by
  unfold isOwnWord isWord
  split
  · simp
  · simp [and_assoc]

theorem wordToken_of_not_mem {word : String} (noKeyword : word ∉ keywords) :
    wordToken word = .ident word := by
  simp only [keywords, List.mem_cons, List.not_mem_nil, or_false, not_or] at noKeyword
  simp [wordToken, noKeyword]

section Lexing

variable {s : List Char} {before behind : List Token}

theorem falls_name {name : QuantityName} (word : isWord name) (ends : EndsWord s) :
    Falls (name.text.toList ++ s) [wordToken name.text] s := by
  unfold isWord at word
  split at word
  · cases word
  · rename_i first others spelled
    obtain ⟨starts, continues⟩ := Bool.and_eq_true_iff.mp word
    have same : String.ofList (first :: others) = name.text := by rw [← spelled, String.ofList_toList]
    rw [spelled, ← same]
    exact falls_word others ends starts continues

theorem isWord_of_mem_keywords {word : String} (keyword : word ∈ keywords) : isWord ⟨word⟩ := by
  have all : keywords.all fun word => isWord ⟨word⟩ := by decide
  exact List.all_eq_true.mp all word keyword

theorem falls_keyword {word : String} (keyword : word ∈ keywords) (ends : EndsWord s) :
    Falls (word.toList ++ s) [wordToken word] s :=
  falls_name (isWord_of_mem_keywords keyword) ends

theorem falls_item {item : Fragment} (spelled : item.isSpellable) (ends : EndsWord s) :
    Falls (itemSpelling item ++ s) [itemToken item] s := by
  cases item with
  | text value => exact falls_quoted value
  | pause =>
      have keyword : "pause" ∈ keywords := by decide
      exact falls_keyword keyword ends
  | voice style => cases spelled
  | tone frequency duration => cases spelled

theorem falls_items {items : List Fragment} (spelled : ∀ item ∈ items, item.isSpellable)
    (ends : EndsWord s) :
    Falls ((", ".toList).intercalate (items.map itemSpelling) ++ s) (listTokens items) s := by
  match items with
  | [] => exact falls_nil
  | [item] =>
      rw [List.map_singleton, List.intercalate_singleton]
      exact falls_item (spelled item (.head _)) ends
  | item :: next :: others =>
      have further := falls_items (fun other member => spelled other (.tail item member)) ends
      rw [List.map_cons, List.map_cons, List.intercalate_cons_cons, List.append_assoc,
        List.append_assoc]
      have separated := (falls_punctuation (c := ',') rfl).trans (falls_space.trans further)
      exact (falls_item (spelled item (.head _)) (endsWord_mark (by decide))).trans separated

theorem falls_enclosedIf (needed : Bool) {spelling : List Char} {tokens : List Token}
    (inside : ∀ {s}, EndsWord s → Falls (spelling ++ s) tokens s) (ends : EndsWord s) :
    Falls (enclosedIf needed spelling ++ s) (enclosedTokens needed tokens) s := by
  cases needed with
  | false => exact inside ends
  | true =>
      have closed : Falls (')' :: s) [.closeParen] s := falls_punctuation rfl
      have opened := (falls_punctuation (c := '(') rfl).trans
        ((inside (endsWord_mark (by decide))).trans closed)
      simpa [enclosedIf, enclosedTokens] using opened

theorem falls_plus : Falls (" + ".toList ++ s) [.plus] s :=
  falls_space.trans ((falls_punctuation rfl).trans falls_space)

theorem falls_operator {word : String} (keyword : word ∈ keywords) :
    Falls (' ' :: (word.toList ++ ' ' :: s)) [wordToken word] s :=
  falls_space.trans ((falls_keyword keyword (endsWord_mark (by decide))).trans falls_space)

theorem falls_or : Falls (" or ".toList ++ s) [.or] s := by
  have keyword : "or" ∈ keywords := by decide
  exact falls_operator keyword

theorem falls_and : Falls (" and ".toList ++ s) [.and] s := by
  have keyword : "and" ∈ keywords := by decide
  exact falls_operator keyword

theorem filterMap_fragmentSpelling? (fragments : List Fragment) :
    fragments.filterMap fragmentSpelling? =
      (fragments.filter (·.isSpellable)).map itemSpelling := by
  induction fragments with
  | nil => rfl
  | cons first rest ih =>
      cases first with
      | text value => exact congrArg (textSpelling value :: ·) ih
      | pause => exact congrArg ("pause".toList :: ·) ih
      | voice style => exact ih
      | tone frequency duration => exact ih

theorem falls_literal (fragments : List Fragment) :
    Falls ((literal fragments).spelling ++ s) (literal fragments).tokens s := by
  have spelled : ∀ item ∈ fragments.filter (·.isSpellable), item.isSpellable :=
    fun item member => (List.mem_filter.mp member).2
  have closed : Falls (']' :: s) [.closeBracket] s := falls_punctuation rfl
  have inside := (falls_items spelled (endsWord_mark (by decide))).trans closed
  have opened := (falls_punctuation (c := '[') rfl).trans inside
  rw [← filterMap_fragmentSpelling?] at opened
  simpa [spelling, tokens] using opened

/-- Two operands with an operator between them, which is set off by a blank. -/
theorem falls_joined {operator left right : List Char} {token : Token} (outer inner : Bool)
    (joins : ∀ {s}, Falls (' ' :: operator ++ s) [token] s)
    (first : ∀ {s}, EndsWord s → Falls (left ++ s) before s)
    (second : ∀ {s}, EndsWord s → Falls (right ++ s) behind s) (ends : EndsWord s) :
    Falls (enclosedIf outer left ++ ' ' :: operator ++ enclosedIf inner right ++ s)
      (enclosedTokens outer before ++ token :: enclosedTokens inner behind) s := by
  have onRight : Falls (' ' :: operator ++ (enclosedIf inner right ++ s))
      ([token] ++ enclosedTokens inner behind) s := joins.trans (falls_enclosedIf inner second ends)
  have set : EndsWord (' ' :: operator ++ (enclosedIf inner right ++ s)) :=
    endsWord_mark (by decide)
  have onLeft := (falls_enclosedIf outer first set).trans onRight
  simpa only [List.append_assoc, List.cons_append, List.nil_append] using onLeft

theorem map_enclosedTokens (needed : Bool) (tokens : List Token) :
    (enclosedTokens needed tokens).map Token.reread =
      enclosedTokens needed (tokens.map Token.reread) := by
  cases needed <;> simp [enclosedTokens, Token.reread]

theorem map_listTokens (items : List Fragment) :
    (listTokens items).map Token.reread = listTokens items := by
  have same (item : Fragment) : (itemToken item).reread = itemToken item := by cases item <;> rfl
  match items with
  | [] => rfl
  | [item] => exact congrArg ([·]) (same item)
  | item :: next :: others =>
      have rest := map_listTokens (next :: others)
      change (itemToken item).reread :: .comma :: (listTokens (next :: others)).map Token.reread = _
      rw [same, rest]
      rfl

/-- The spelling of an expression falls into its tokens, as they are read. -/
theorem falls_spelling {expr : Expr} (words : ∀ name ∈ expr.references, isWord name)
    (ends : EndsWord s) : Falls (expr.spelling ++ s) (expr.tokens.map Token.reread) s := by
  induction expr generalizing s with
  | literal fragments =>
      have falls : Falls ((literal fragments).spelling ++ s) (literal fragments).tokens s :=
        falls_literal fragments
      simpa [tokens, map_listTokens, Token.reread] using falls
  | ref name => exact falls_name (words name (.head _)) ends
  | concat left right ihl ihr =>
      obtain ⟨onLeft, onRight⟩ := List.forall_mem_append.mp words
      rw [tokens, List.map_append, List.map_cons, map_enclosedTokens, map_enclosedTokens]
      exact falls_joined _ _ falls_plus (ihl onLeft) (ihr onRight) ends
  | or left right ihl ihr =>
      obtain ⟨onLeft, onRight⟩ := List.forall_mem_append.mp words
      rw [tokens, List.map_append, List.map_cons, map_enclosedTokens, map_enclosedTokens]
      exact falls_joined _ _ falls_or (ihl onLeft) (ihr onRight) ends
  | and left right ihl ihr =>
      obtain ⟨onLeft, onRight⟩ := List.forall_mem_append.mp words
      rw [tokens, List.map_append, List.map_cons, map_enclosedTokens, map_enclosedTokens]
      exact falls_joined _ _ falls_and (ihl onLeft) (ihr onRight) ends

/-- Names that are no keywords are read as they are spelled. -/
theorem map_tokens {expr : Expr} (noKeyword : ∀ name ∈ expr.references, name.text ∉ keywords) :
    expr.tokens.map Token.reread = expr.tokens := by
  induction expr with
  | literal fragments => simp [tokens, map_listTokens, Token.reread]
  | ref name => exact congrArg ([·]) (wordToken_of_not_mem (noKeyword name (.head _)))
  | concat left right ihl ihr | or left right ihl ihr | and left right ihl ihr =>
      obtain ⟨onLeft, onRight⟩ := List.forall_mem_append.mp noKeyword
      rw [tokens, List.map_append, List.map_cons, map_enclosedTokens, map_enclosedTokens, ihl onLeft,
        ihr onRight]
      rfl

end Lexing

/-- The phrase that the outermost operator makes up. -/
def phrase : Expr → Phrase
  | .or _ _ => .whole
  | .and _ _ => .product
  | .concat _ _ => .sum
  | .literal _ | .ref _ => .operand

theorem rank_phrase (expr : Expr) : expr.phrase.rank = expr.precedence := by
  cases expr <;> rfl

theorem derives_enclosed {expr read : Expr} {loose : Phrase} {tokens : List Token} (needed : Prop)
    [Decidable needed] (derived : Derives expr.phrase tokens read)
    (binds : ¬ needed → loose.rank ≤ expr.precedence) :
    Derives loose (enclosedTokens needed tokens) read := by
  by_cases enclose : needed
  · rw [decide_eq_true enclose]
    have enclosed : Derives .operand (.openParen :: tokens ++ [.closeParen]) read :=
      .enclosed derived.toWhole
    exact enclosed.loosen (by cases loose <;> decide)
  · rw [decide_eq_false enclose]
    refine derived.loosen ?_
    rw [rank_phrase]
    exact binds enclose

theorem isItem_of_isSpellable {item : Fragment} (spelled : item.isSpellable) :
    IsItem (itemToken item) item := by
  cases item with
  | text value => exact .text value
  | pause => exact .pause
  | voice style => cases spelled
  | tone frequency duration => cases spelled

theorem items_listTokens {item : Fragment} {others : List Fragment}
    (spelled : ∀ other ∈ item :: others, other.isSpellable) :
    Items (listTokens (item :: others)) (item :: others) := by
  induction others generalizing item with
  | nil => exact .last (isItem_of_isSpellable (spelled item (.head _)))
  | cons next others ih =>
      exact .more (isItem_of_isSpellable (spelled item (.head _)))
        (ih fun other member => spelled other (.tail item member))

theorem derives_literal (fragments : List Fragment) :
    Derives .operand (literal fragments).tokens (literal fragments).spellable := by
  have spelled : ∀ item ∈ fragments.filter (·.isSpellable), item.isSpellable :=
    fun item member => (List.mem_filter.mp member).2
  rw [tokens, spellable]
  cases kept : fragments.filter (·.isSpellable) with
  | nil => exact .emptyList
  | cons item others =>
      rw [kept] at spelled
      exact .list (items_listTokens spelled)

theorem normalize_of_isOwnWord {name : QuantityName} (own : isOwnWord name) :
    QuantityName.normalize name.text = name :=
  (isOwnWord_iff.mp own).2.2

/-- The tokens of an expression make up the phrase of its outermost operator. -/
theorem derives_tokens {expr : Expr} (named : ∀ name ∈ expr.references, isOwnWord name) :
    Derives expr.phrase expr.tokens expr.spellable := by
  induction expr with
  | literal fragments => exact derives_literal fragments
  | ref name =>
      have same := normalize_of_isOwnWord (named name (.head _))
      have derived := Derives.name name.text
      rw [reference, same] at derived
      exact derived
  | concat left right ihl ihr =>
      have first := ihl fun name member => named name (List.mem_append_left _ member)
      have second := ihr fun name member => named name (List.mem_append_right _ member)
      exact .plus (derives_enclosed (left.precedence < 3) first Nat.le_of_not_lt)
        (derives_enclosed (right.precedence ≤ 3) second Nat.lt_of_not_le)
  | or left right ihl ihr =>
      have first := ihl fun name member => named name (List.mem_append_left _ member)
      have second := ihr fun name member => named name (List.mem_append_right _ member)
      exact .or (derives_enclosed (left.precedence < 1) first Nat.le_of_not_lt)
        (derives_enclosed (right.precedence ≤ 1) second Nat.lt_of_not_le)
  | and left right ihl ihr =>
      have first := ihl fun name member => named name (List.mem_append_left _ member)
      have second := ihr fun name member => named name (List.mem_append_right _ member)
      exact .and (derives_enclosed (left.precedence < 2) first Nat.le_of_not_lt)
        (derives_enclosed (right.precedence ≤ 2) second Nat.lt_of_not_le)

/-- The spelling of an expression falls into tokens that make up the expression. -/
theorem display_derives {expr : Expr} (named : ∀ name ∈ expr.references, isOwnWord name) :
    ∃ located, tokenize 0 expr.display.toList = .ok located ∧
      Derives .whole (located.map Located.token) expr.spellable := by
  have words : ∀ name ∈ expr.references, isWord name :=
    fun name member => (isOwnWord_iff.mp (named name member)).1
  have noKeyword : ∀ name ∈ expr.references, name.text ∉ keywords :=
    fun name member => (isOwnWord_iff.mp (named name member)).2.1
  have lexed := (falls_spelling words endsWord_nil).lexes lexes_nil
  rw [List.append_nil, List.append_nil, map_tokens noKeyword] at lexed
  obtain ⟨located, tokenized, same⟩ := lexed 0
  refine ⟨located, ?_, ?_⟩
  · rw [display, String.toList_ofList]
    exact tokenized
  · rw [same]
    exact (derives_tokens named).toWhole

/-- Reading the spelling of an expression gives the expression back, without the fragments that have no
spelling. -/
theorem parse_display {expr : Expr} (named : ∀ name ∈ expr.references, isOwnWord name) :
    parse expr.display = .ok expr.spellable := by
  obtain ⟨located, tokenized, derived⟩ := display_derives named
  exact parse_of_derives tokenized derived

/-- Its spelling needs escapes and parentheses on the right, and leaves out the voice marker. -/
def grouped : Expr :=
  .or (.ref ⟨"name"⟩) (.or (.and (.ref ⟨"_größe2"⟩) .empty)
    (.concat (.literal [.text "a \"b\"\\\n\x00", .voice .uppercase, .pause])
      (.concat (.ref ⟨"text"⟩) (.ref ⟨"orNone"⟩))))

theorem parse_display_grouped :
    (∀ name ∈ grouped.references, isOwnWord name) ∧
      parse grouped.display =
        .ok (.or (.ref ⟨"name"⟩) (.or (.and (.ref ⟨"_größe2"⟩) .empty)
          (.concat (.literal [.text "a \"b\"\\\n\x00", .pause])
            (.concat (.ref ⟨"text"⟩) (.ref ⟨"orNone"⟩))))) := by
  have named : ∀ name ∈ grouped.references, isOwnWord name := by decide +kernel
  exact ⟨named, parse_display named⟩

end Narration.Expr
