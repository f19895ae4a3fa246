import Mathlib.Data.List.Induction
import Narration.Proofs.Grammar
/-! Reading accepts exactly the texts whose tokens follow the grammar. The grammar is given with its
repetitions; `Derives` says the same with rules that add one phrase at a time. -/
namespace Narration.Expr

/-- The phrases that are repeated with an operator between them. -/
inductive Repeats : Phrase → Token → (Expr → Expr → Expr) → Phrase → Prop
  | or : Repeats .whole .or .or .product
  | and : Repeats .product .and .and .sum
  | plus : Repeats .sum .plus .concat .operand

/-- The tokens of phrases that have an operator between them. -/
def joinedTokens (operator : Token) (first : List Token × Expr) (others : List (List Token × Expr)) :
    List Token :=
  first.1 ++ others.flatMap fun part => operator :: part.1

/-- The value of phrases that have an operator between them, which groups from the left. -/
def joinedExpr (combine : Expr → Expr → Expr) (first : List Token × Expr)
    (others : List (List Token × Expr)) : Expr :=
  others.foldl (fun left part => combine left part.2) first.2

/-- The grammar. A phrase consists of one or more phrases of the next kind with its operator between
them. Operands are names, strings, bracketed items with commas between them, and whole expressions in
parentheses. -/
inductive Follows : Phrase → List Token → Expr → Prop
  | joined {loose tight : Phrase} {operator : Token} {combine : Expr → Expr → Expr}
      {first : List Token × Expr} {others : List (List Token × Expr)}
      (repeats : Repeats loose operator combine tight)
      (parts : ∀ part ∈ first :: others, Follows tight part.1 part.2) :
      Follows loose (joinedTokens operator first others) (joinedExpr combine first others)
  | name (name : String) : Follows .operand [.ident name] (.ref (.normalize name))
  | text (value : String) : Follows .operand [.str value] (.literal [.text value])
  | list {items : List (Token × Fragment)} (are : ∀ item ∈ items, IsItem item.1 item.2) :
      Follows .operand
        (.openBracket :: (items.map Prod.fst).intersperse .comma ++ [.closeBracket])
        (.literal (items.map Prod.snd))
  | enclosed {tokens : List Token} {expr : Expr} (inside : Follows .whole tokens expr) :
      Follows .operand (.openParen :: tokens ++ [.closeParen]) expr

section Repetition

variable {loose tight : Phrase} {operator : Token} {combine : Expr → Expr → Expr}
  {first part : List Token × Expr} {others : List (List Token × Expr)} {before behind : List Token}
  {left right : Expr}

/-- Each phrase has one rule with repetition. -/
theorem Repeats.unique {otherTight : Phrase} {other : Token} {otherCombine : Expr → Expr → Expr}
    (repeats : Repeats loose operator combine tight)
    (again : Repeats loose other otherCombine otherTight) :
    operator = other ∧ combine = otherCombine ∧ tight = otherTight := by
  cases repeats <;> cases again <;> exact ⟨rfl, rfl, rfl⟩

theorem Repeats.derives_first (repeats : Repeats loose operator combine tight)
    (derived : Derives tight before left) : Derives loose before left := by
  cases repeats with
  | or => exact .whole derived
  | and => exact .product derived
  | plus => exact .sum derived

theorem Repeats.derives_further (repeats : Repeats loose operator combine tight)
    (first : Derives loose before left) (second : Derives tight behind right) :
    Derives loose (before ++ operator :: behind) (combine left right) := by
  cases repeats with
  | or => exact .or first second
  | and => exact .and first second
  | plus => exact .plus first second

theorem joinedTokens_append :
    joinedTokens operator first (others ++ [part]) =
      joinedTokens operator first others ++ operator :: part.1 := by
  simp [joinedTokens]

theorem joinedExpr_append :
    joinedExpr combine first (others ++ [part]) = combine (joinedExpr combine first others) part.2 := by
  simp [joinedExpr]

theorem Repeats.derives_joined (repeats : Repeats loose operator combine tight)
    (parts : ∀ part ∈ first :: others, Derives tight part.1 part.2) :
    Derives loose (joinedTokens operator first others) (joinedExpr combine first others) := by
  induction others using List.reverseRecOn with
  | nil =>
      rw [joinedTokens, List.flatMap_nil, List.append_nil]
      exact repeats.derives_first (parts first (.head _))
  | append_singleton others part ih =>
      rw [joinedTokens_append, joinedExpr_append]
      refine repeats.derives_further (ih fun other member => parts other ?_) (parts part (by simp))
      exact List.mem_append_left [part] member

theorem Follows.single (repeats : Repeats loose operator combine tight)
    (follows : Follows tight before left) : Follows loose before left := by
  have alone : Follows loose (joinedTokens operator (before, left) []) left :=
    .joined repeats (by simpa using follows)
  rwa [joinedTokens, List.flatMap_nil, List.append_nil] at alone

theorem Follows.further (repeats : Repeats loose operator combine tight)
    (first : Follows loose before left) (second : Follows tight behind right) :
    Follows loose (before ++ operator :: behind) (combine left right) := by
  cases first with
  | @joined _ _ _ _ first others same parts =>
      obtain ⟨rfl, rfl, rfl⟩ := repeats.unique same
      have more : Follows loose (joinedTokens operator first (others ++ [(behind, right)]))
          (joinedExpr combine first (others ++ [(behind, right)])) := by
        refine .joined repeats fun part member => ?_
        rw [← List.cons_append, List.mem_append, List.mem_singleton] at member
        rcases member with before | rfl
        · exact parts part before
        · exact second
      rwa [joinedTokens_append, joinedExpr_append] at more
  | _ => cases repeats

end Repetition

/-- One or more items with commas between them. -/
theorem items_intersperse {items : List (Token × Fragment)} (some : items ≠ [])
    (are : ∀ item ∈ items, IsItem item.1 item.2) :
    Items ((items.map Prod.fst).intersperse .comma) (items.map Prod.snd) := by
  match items with
  | [] => exact absurd rfl some
  | [item] => exact .last (are item (.head _))
  | item :: next :: others =>
      exact .more (are item (.head _))
        (items_intersperse (List.cons_ne_nil _ _) fun other member => are other (.tail item member))

theorem Items.exists_pairs {tokens : List Token} {items : List Fragment} (inside : Items tokens items) :
    ∃ pairs : List (Token × Fragment), pairs ≠ [] ∧ (∀ item ∈ pairs, IsItem item.1 item.2) ∧
      (pairs.map Prod.fst).intersperse .comma = tokens ∧ pairs.map Prod.snd = items := by
  induction inside with
  | @last token item is => exact ⟨[(token, item)], by simp, by simpa using is, rfl, rfl⟩
  | @more token item tokens items is rest ih =>
      obtain ⟨pairs, some, are, rfl, rfl⟩ := ih
      obtain ⟨next, others, rfl⟩ := List.exists_cons_of_ne_nil some
      refine ⟨(token, item) :: next :: others, by simp, ?_, rfl, rfl⟩
      exact List.forall_mem_cons.mpr ⟨is, are⟩

theorem Follows.derives {phrase : Phrase} {tokens : List Token} {expr : Expr}
    (follows : Follows phrase tokens expr) : Derives phrase tokens expr := by
  induction follows with
  | joined repeats parts ih => exact repeats.derives_joined ih
  | name name => exact .name name
  | text value => exact .text value
  | @list items are =>
      cases items with
      | nil => exact .emptyList
      | cons item others => exact .list (items_intersperse (List.cons_ne_nil _ _) are)
  | enclosed inside ih => exact .enclosed ih

theorem Derives.follows {phrase : Phrase} {tokens : List Token} {expr : Expr}
    (derived : Derives phrase tokens expr) : Follows phrase tokens expr := by
  induction derived with
  | name name => exact .name name
  | text value => exact .text value
  | emptyList => exact @Follows.list [] fun _ member => nomatch member
  | list inside =>
      obtain ⟨pairs, -, are, rfl, rfl⟩ := inside.exists_pairs
      exact .list are
  | enclosed inside ih => exact .enclosed ih
  | sum operand ih => exact .single .plus ih
  | plus first second ihl ihr => exact .further .plus ihl ihr
  | product sum ih => exact .single .and ih
  | and first second ihl ihr => exact .further .and ihl ihr
  | whole product ih => exact .single .or ih
  | or first second ihl ihr => exact .further .or ihl ihr

/-- Behind an item and a comma stands one more item. -/
theorem Items.append {tokens : List Token} {items : List Fragment} {token : Token} {item : Fragment}
    (inside : Items tokens items) (is : IsItem token item) :
    Items (tokens ++ [.comma, token]) (items ++ [item]) := by
  induction inside with
  | last first => exact .more first (.last is)
  | more first rest ih => exact .more first ih

/-- What stands left of an operand: the phrase with its operator behind it, if there is one. -/
def LeftOf (phrase : Phrase) (operator : Token) : Option Expr → List Token → Prop
  | none, tokens => tokens = []
  | some left, tokens => ∃ before, Derives phrase before left ∧ tokens = before ++ [operator]

/-- A phrase joins what stands left of it. -/
theorem Repeats.derives_leftOf {loose tight : Phrase} {operator : Token}
    {combine : Expr → Expr → Expr} {left : Option Expr} {right : Expr} {before behind : List Token}
    (repeats : Repeats loose operator combine tight) (stands : LeftOf loose operator left before)
    (derived : Derives tight behind right) :
    Derives loose (before ++ behind) (Chain.joined combine left right) := by
  cases left with
  | none =>
      cases stands
      exact repeats.derives_first derived
  | some left =>
      obtain ⟨before, first, rfl⟩ := stands
      rw [List.append_assoc, List.singleton_append]
      exact repeats.derives_further first derived

namespace Reading

/-- The tokens that a chain was read from. -/
inductive ChainFrom (chain : Chain) : List Token → Prop
  | mk {disjunct conjunct addend : List Token} (atOr : LeftOf .whole .or chain.disjunct disjunct)
      (atAnd : LeftOf .product .and chain.conjunct conjunct)
      (atPlus : LeftOf .sum .plus chain.addend addend) :
      ChainFrom chain (disjunct ++ (conjunct ++ addend))

/-- The tokens that the chains around the open parentheses were read from. -/
inductive OuterFrom : List Chain → List Token → Prop
  | nil : OuterFrom [] []
  | cons {chain : Chain} {outer : List Chain} {around before : List Token}
      (outside : OuterFrom outer around) (chained : ChainFrom chain before) :
      OuterFrom (chain :: outer) (around ++ (before ++ [.openParen]))

/-- The invariant of reading: the tokens that were read so far. -/
inductive From : Reading → List Token → Prop
  | operand {outer : List Chain} {chain : Chain} {around before : List Token}
      (outside : OuterFrom outer around) (chained : ChainFrom chain before) :
      From (.operand outer chain) (around ++ before)
  | operator {outer : List Chain} {chain : Chain} {around disjunct conjunct tokens : List Token}
      {value : Expr} (outside : OuterFrom outer around)
      (atOr : LeftOf .whole .or chain.disjunct disjunct)
      (atAnd : LeftOf .product .and chain.conjunct conjunct) (derived : Derives .sum tokens value) :
      From (.operator outer chain value) (around ++ (disjunct ++ (conjunct ++ tokens)))
  | listStart {outer : List Chain} {chain : Chain} {around before : List Token}
      (outside : OuterFrom outer around) (chained : ChainFrom chain before) :
      From (.listStart outer chain) (around ++ (before ++ [.openBracket]))
  | listItem {outer : List Chain} {chain : Chain} {around before tokens : List Token}
      {items : List Fragment} (outside : OuterFrom outer around) (chained : ChainFrom chain before)
      (inside : Items tokens items) :
      From (.listItem outer chain items) (around ++ (before ++ .openBracket :: (tokens ++ [.comma])))
  | listEnd {outer : List Chain} {chain : Chain} {around before tokens : List Token}
      {items : List Fragment} (outside : OuterFrom outer around) (chained : ChainFrom chain before)
      (inside : Items tokens items) :
      From (.listEnd outer chain items) (around ++ (before ++ .openBracket :: tokens))

section Soundness

variable {outer : List Chain} {chain : Chain} {around before disjunct conjunct tokens : List Token}
  {token : Token} {value expr : Expr} {items : List Fragment} {reading next : Reading}

theorem chainFrom_start : ChainFrom .start [] := @ChainFrom.mk .start [] [] [] rfl rfl rfl

theorem from_operandRead (outside : OuterFrom outer around) (chained : ChainFrom chain before)
    (derived : Derives .operand tokens expr) :
    From (operandRead outer chain expr) (around ++ (before ++ tokens)) := by
  cases chained with
  | mk atOr atAnd atPlus =>
      rw [List.append_assoc, List.append_assoc]
      exact .operator outside atOr atAnd (Repeats.plus.derives_leftOf atPlus derived)

theorem derives_product (atAnd : LeftOf .product .and chain.conjunct conjunct)
    (derived : Derives .sum tokens value) :
    Derives .product (conjunct ++ tokens) (chain.product value) :=
  Repeats.and.derives_leftOf atAnd derived

theorem derives_close (atOr : LeftOf .whole .or chain.disjunct disjunct)
    (atAnd : LeftOf .product .and chain.conjunct conjunct) (derived : Derives .sum tokens value) :
    Derives .whole (disjunct ++ (conjunct ++ tokens)) (chain.close value) :=
  Repeats.or.derives_leftOf atOr (derives_product atAnd derived)

theorem from_readOperand (outside : OuterFrom outer around) (chained : ChainFrom chain before)
    (stepped : readOperand outer chain token = .ok next) :
    From next (around ++ before ++ [token]) := by
  rw [List.append_assoc]
  cases token <;> cases stepped
  case ident name => exact from_operandRead outside chained (.name name)
  case str value => exact from_operandRead outside chained (.text value)
  case openBracket => exact .listStart outside chained
  case openParen =>
    have inner : From (.operand (chain :: outer) .start) (around ++ (before ++ [.openParen]) ++ []) :=
      .operand (outside.cons chained) chainFrom_start
    rwa [List.append_nil] at inner

theorem from_close {enclosing : Chain} (outside : OuterFrom (enclosing :: outer) around)
    (derived : Derives .whole tokens expr) :
    From (operandRead outer enclosing expr) (around ++ (tokens ++ [.closeParen])) := by
  cases outside with
  | cons outside chained =>
      have enclosed := from_operandRead outside chained (.enclosed derived)
      simpa only [List.append_assoc, List.cons_append, List.nil_append] using enclosed

theorem from_readOperator (outside : OuterFrom outer around)
    (atOr : LeftOf .whole .or chain.disjunct disjunct)
    (atAnd : LeftOf .product .and chain.conjunct conjunct) (derived : Derives .sum tokens value)
    (stepped : readOperator outer chain value token = .ok next) :
    From next (around ++ (disjunct ++ (conjunct ++ tokens)) ++ [token]) := by
  rw [List.append_assoc]
  have product := derives_product atAnd derived
  have whole := derives_close atOr atAnd derived
  unfold readOperator at stepped
  split at stepped
  · cases stepped
    have added : ChainFrom (chain.plus value) (disjunct ++ (conjunct ++ (tokens ++ [.plus]))) :=
      .mk atOr atAnd ⟨tokens, derived, rfl⟩
    simpa only [List.append_assoc] using From.operand outside added
  · cases stepped
    have added : ChainFrom (chain.and value) (disjunct ++ (conjunct ++ tokens ++ [.and] ++ [])) :=
      .mk atOr ⟨conjunct ++ tokens, product, rfl⟩ rfl
    simpa only [List.append_assoc, List.append_nil] using From.operand outside added
  · cases stepped
    have added : ChainFrom (chain.or value)
        (disjunct ++ (conjunct ++ tokens) ++ [.or] ++ ([] ++ [])) :=
      .mk ⟨disjunct ++ (conjunct ++ tokens), whole, rfl⟩ rfl rfl
    simpa only [List.append_assoc, List.append_nil] using From.operand outside added
  · split at stepped
    · cases stepped
    · split at stepped
      · rename_i closes
        cases stepped
        rw [closes]
        exact from_close outside whole
      · cases stepped

theorem from_readItem (outside : OuterFrom outer around) (chained : ChainFrom chain before)
    (inside : tokens = [] ∧ items = [] ∨ ∃ others, Items others items ∧ tokens = others ++ [.comma])
    (stepped : readItem outer chain items token = .ok next) :
    From next (around ++ (before ++ .openBracket :: (tokens ++ [token]))) := by
  obtain ⟨item, is, rfl⟩ : ∃ item, IsItem token item ∧ .listEnd outer chain (items ++ [item]) = next := by
    cases token <;> cases stepped
    case str value => exact ⟨_, .text value, rfl⟩
    case pause => exact ⟨_, .pause, rfl⟩
  refine .listEnd outside chained ?_
  rcases inside with ⟨rfl, rfl⟩ | ⟨others, inside, rfl⟩
  · exact .last is
  · rw [List.append_assoc]
    exact inside.append is

/-- One token more was read. -/
theorem From.step (read : From reading tokens) (stepped : reading.step token = .ok next) :
    From next (tokens ++ [token]) := by
  cases read with
  | operand outside chained => exact from_readOperand outside chained stepped
  | operator outside atOr atAnd derived => exact from_readOperator outside atOr atAnd derived stepped
  | listStart outside chained =>
      simp only [Reading.step] at stepped
      split at stepped
      · rename_i closes
        cases stepped
        have empty := from_operandRead outside chained .emptyList
        simpa only [List.append_assoc, List.cons_append, List.nil_append, closes] using empty
      · have item := from_readItem outside chained (.inl ⟨rfl, rfl⟩) stepped
        simpa only [List.append_assoc, List.cons_append, List.nil_append] using item
  | listItem outside chained inside =>
      have item := from_readItem outside chained (.inr ⟨_, inside, rfl⟩) stepped
      simpa only [List.append_assoc, List.cons_append, List.nil_append] using item
  | listEnd outside chained inside =>
      simp only [Reading.step] at stepped
      split at stepped
      · cases stepped
        have list := from_operandRead outside chained (.list inside)
        simpa only [List.append_assoc, List.cons_append, List.nil_append] using list
      · cases stepped
        have comma := From.listItem outside chained inside
        simpa only [List.append_assoc, List.cons_append, List.nil_append] using comma
      · cases stepped

theorem From.finish (read : From reading tokens) (ended : reading.finish = .ok expr) :
    Derives .whole tokens expr := by
  cases read with
  | @operator outer chain around disjunct conjunct tokens value outside atOr atAnd derived =>
      cases outside with
      | nil =>
          cases ended
          rw [List.nil_append]
          exact derives_close atOr atAnd derived
      | cons outside chained => cases ended
  | operand outside chained => cases ended
  | listStart outside chained => cases ended
  | listItem outside chained inside => cases ended
  | listEnd outside chained inside => cases ended

/-- What was read to the end is a phrase of the grammar, with the value that was read. -/
theorem From.run {size : Nat} {located : List Located} (read : From reading tokens)
    (ran : reading.run size located = .ok expr) :
    Derives .whole (tokens ++ located.map Located.token) expr := by
  induction located generalizing reading tokens with
  | nil =>
      rw [List.map_nil, List.append_nil]
      rw [Reading.run] at ran
      cases ended : reading.finish with
      | error what =>
          rw [ended] at ran
          cases ran
      | ok value =>
          rw [ended] at ran
          cases ran
          exact read.finish ended
  | cons first rest ih =>
      rw [Reading.run] at ran
      cases stepped : reading.step first.token with
      | error what =>
          rw [stepped] at ran
          cases ran
      | ok next =>
          rw [stepped] at ran
          have further := ih (read.step stepped) ran
          rwa [List.append_assoc, List.singleton_append, ← List.map_cons] at further

end Soundness

end Reading

theorem derives_of_parse {source : String} {expr : Expr} (parsed : parse source = .ok expr) :
    ∃ located, tokenize 0 source.toList = .ok located ∧
      (located = [] ∧ expr = .empty ∨ Derives .whole (located.map Located.token) expr) := by
  unfold parse at parsed
  split at parsed
  · cases parsed
  · rename_i lexed
    cases parsed
    exact ⟨[], lexed, .inl ⟨rfl, rfl⟩⟩
  · rename_i located some lexed
    exact ⟨located, lexed, .inr (Reading.From.run (.operand .nil Reading.chainFrom_start) parsed)⟩

/-- The grammar is unambiguous: tokens are an expression in one way at most. -/
theorem Follows.unique {tokens : List Token} {expr other : Expr}
    (follows : Follows .whole tokens expr) (again : Follows .whole tokens other) : expr = other := by
  obtain ⟨after, value, read, closed⟩ := follows.derives.read [] .start rfl
  obtain ⟨last, result, same, closes⟩ := again.derives.read [] .start rfl
  rw [read] at same
  cases same
  exact closed.symm.trans closes

/-- A text is read as an expression exactly if it falls into tokens, and these follow the grammar as
this expression, or there are none and the expression is empty. -/
theorem parse_eq_ok_iff {source : String} {expr : Expr} :
    parse source = .ok expr ↔
      ∃ located, tokenize 0 source.toList = .ok located ∧
        (located = [] ∧ expr = .empty ∨ Follows .whole (located.map Located.token) expr) := by
  constructor
  · intro parsed
    obtain ⟨located, lexed, empty | derived⟩ := derives_of_parse parsed
    · exact ⟨located, lexed, .inl empty⟩
    · exact ⟨located, lexed, .inr derived.follows⟩
  · rintro ⟨located, lexed, ⟨rfl, rfl⟩ | follows⟩
    · simp only [parse, lexed]
    · exact parse_of_derives lexed follows.derives

end Narration.Expr
