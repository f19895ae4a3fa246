import Narration.Expr.Parser
/-! The grammar of expressions, and that reading follows it. -/
namespace Narration.Expr

/-- The phrases of the grammar, from the loosest to the tightest. -/
inductive Phrase where
  | whole
  | product
  | sum
  | operand
  deriving DecidableEq, Repr

/-- An item of a bracketed list. -/
inductive IsItem : Token → Fragment → Prop
  | text (value : String) : IsItem (.str value) (.text value)
  | pause : IsItem .pause .pause

/-- One or more items with commas between them. -/
inductive Items : List Token → List Fragment → Prop
  | last {token : Token} {item : Fragment} (is : IsItem token item) : Items [token] [item]
  | more {token : Token} {item : Fragment} {tokens : List Token} {items : List Fragment}
      (is : IsItem token item) (rest : Items tokens items) :
      Items (token :: .comma :: tokens) (item :: items)

/-- The phrases that tokens can make up, with the expressions that they stand for. Operators group from
the left, and parentheses leave no trace. -/
inductive Derives : Phrase → List Token → Expr → Prop
  | name (name : String) : Derives .operand [.ident name] (.reference name)
  | text (value : String) : Derives .operand [.str value] (.text value)
  | emptyList : Derives .operand [.openBracket, .closeBracket] .empty
  | list {tokens : List Token} {items : List Fragment} (inside : Items tokens items) :
      Derives .operand (.openBracket :: tokens ++ [.closeBracket]) (.literal items)
  | enclosed {tokens : List Token} {expr : Expr} (inside : Derives .whole tokens expr) :
      Derives .operand (.openParen :: tokens ++ [.closeParen]) expr
  | sum {tokens : List Token} {expr : Expr} (operand : Derives .operand tokens expr) :
      Derives .sum tokens expr
  | plus {before behind : List Token} {left right : Expr} (first : Derives .sum before left)
      (second : Derives .operand behind right) :
      Derives .sum (before ++ .plus :: behind) (.concat left right)
  | product {tokens : List Token} {expr : Expr} (sum : Derives .sum tokens expr) :
      Derives .product tokens expr
  | and {before behind : List Token} {left right : Expr} (first : Derives .product before left)
      (second : Derives .sum behind right) :
      Derives .product (before ++ .and :: behind) (.and left right)
  | whole {tokens : List Token} {expr : Expr} (product : Derives .product tokens expr) :
      Derives .whole tokens expr
  | or {before behind : List Token} {left right : Expr} (first : Derives .whole before left)
      (second : Derives .product behind right) :
      Derives .whole (before ++ .or :: behind) (.or left right)

/-- How tightly a phrase binds. -/
def Phrase.rank : Phrase → Nat
  | .whole => 1
  | .product => 2
  | .sum => 3
  | .operand => 4

section Loosening

variable {tight : Phrase} {tokens : List Token} {expr : Expr}

theorem Derives.toSum (derived : Derives tight tokens expr) (binds : 3 ≤ tight.rank) :
    Derives .sum tokens expr := by
  cases tight with
  | whole => exact absurd binds (by decide)
  | product => exact absurd binds (by decide)
  | sum => exact derived
  | operand => exact .sum derived

theorem Derives.toProduct (derived : Derives tight tokens expr) (binds : 2 ≤ tight.rank) :
    Derives .product tokens expr := by
  cases tight with
  | whole => exact absurd binds (by decide)
  | product => exact derived
  | sum => exact .product derived
  | operand => exact .product (.sum derived)

theorem Derives.toWhole (derived : Derives tight tokens expr) : Derives .whole tokens expr := by
  cases tight with
  | whole => exact derived
  | product => exact .whole derived
  | sum => exact .whole (.product derived)
  | operand => exact .whole (.product (.sum derived))

/-- A phrase stands wherever a looser one may stand. -/
theorem Derives.loosen {loose : Phrase} (derived : Derives tight tokens expr)
    (looser : loose.rank ≤ tight.rank) : Derives loose tokens expr := by
  cases loose with
  | whole => exact derived.toWhole
  | product => exact derived.toProduct looser
  | sum => exact derived.toSum looser
  | operand =>
      cases tight with
      | operand => exact derived
      | whole => exact absurd looser (by decide)
      | product => exact absurd looser (by decide)
      | sum => exact absurd looser (by decide)

end Loosening

namespace Reading

/-- Goes on by several tokens. -/
def steps (reading : Reading) (tokens : List Token) : Except Expectation Reading :=
  tokens.foldlM step reading

theorem steps_append (reading : Reading) (before behind : List Token) :
    reading.steps (before ++ behind) = reading.steps before >>= (·.steps behind) :=
  List.foldlM_append

theorem steps_append_of {reading between : Reading} {before : List Token}
    (read : reading.steps before = .ok between) (behind : List Token) :
    reading.steps (before ++ behind) = between.steps behind := by
  rw [steps_append, read]
  rfl

theorem steps_cons_of {reading next : Reading} {token : Token} (read : reading.step token = .ok next)
    (tokens : List Token) : reading.steps (token :: tokens) = next.steps tokens := by
  rw [steps, List.foldlM_cons, read]
  rfl

theorem run_of_steps {size : Nat} {reading final : Reading} {located : List Located} {expr : Expr}
    (read : reading.steps (located.map Located.token) = .ok final) (ends : final.finish = .ok expr) :
    reading.run size located = .ok expr := by
  induction located generalizing reading with
  | nil =>
      cases read
      rw [run, ends]
      rfl
  | cons first rest ih =>
      rw [List.map_cons, steps, List.foldlM_cons] at read
      rw [run]
      cases stepped : reading.step first.token with
      | error what =>
          rw [stepped] at read
          cases read
      | ok next =>
          rw [stepped] at read
          exact ih read

end Reading

/-- The chains in which a phrase can start: no operator that binds as tightly as it stands in front. -/
def Phrase.Fits (chain : Chain) : Phrase → Prop
  | .operand => True
  | .sum => chain.addend = none
  | .product => chain.conjunct = none ∧ chain.addend = none
  | .whole => chain = .start

/-- What the reading of a phrase that stands for `expr` makes of the chain in front of it. The tighter
the phrase, the more of this chain is still to be joined with what was read. -/
def Phrase.Leaves (chain after : Chain) (value expr : Expr) : Phrase → Prop
  | .operand => after = chain ∧ value = chain.sum expr
  | .sum => after.disjunct = chain.disjunct ∧ after.conjunct = chain.conjunct ∧ value = expr
  | .product => after.disjunct = chain.disjunct ∧ after.product value = expr
  | .whole => after.close value = expr

section Lists

variable {outer : List Chain} {chain : Chain} {token : Token} {tokens : List Token}
  {item : Fragment} {items earlier : List Fragment}

theorem IsItem.read (is : IsItem token item) :
    (Reading.listItem outer chain earlier).step token =
      .ok (.listEnd outer chain (earlier ++ [item])) := by
  cases is <;> rfl

theorem Items.read (inside : Items tokens items) :
    (Reading.listItem outer chain earlier).steps (tokens ++ [.closeBracket]) =
      .ok (Reading.operandRead outer chain (.literal (earlier ++ items))) := by
  induction inside generalizing earlier with
  | last is => exact Reading.steps_cons_of is.read _
  | @more token item tokens items is rest ih =>
      have comma : (Reading.listEnd outer chain (earlier ++ [item])).step .comma =
        .ok (.listItem outer chain (earlier ++ [item])) := rfl
      rw [List.cons_append, Reading.steps_cons_of is.read, List.cons_append,
        Reading.steps_cons_of comma, ih, List.append_assoc, List.singleton_append]

/-- The first item of a list is read as any other. -/
theorem Items.steps_listStart (inside : Items tokens items) (behind : List Token) :
    (Reading.listStart outer chain).steps (tokens ++ behind) =
      (Reading.listItem outer chain []).steps (tokens ++ behind) := by
  cases inside with
  | last is => cases is <;> rfl
  | more is rest => cases is <;> rfl

end Lists

/-- Reading follows the grammar: behind a phrase, its value has joined the chain in front. -/
theorem Derives.read {phrase : Phrase} {tokens : List Token} {expr : Expr}
    (derived : Derives phrase tokens expr) (outer : List Chain) (chain : Chain)
    (fits : phrase.Fits chain) :
    ∃ after value, (Reading.operand outer chain).steps tokens = .ok (.operator outer after value) ∧
      phrase.Leaves chain after value expr := by
  induction derived generalizing outer chain with
  | name name => exact ⟨chain, _, rfl, rfl, rfl⟩
  | text value => exact ⟨chain, _, rfl, rfl, rfl⟩
  | emptyList => exact ⟨chain, _, rfl, rfl, rfl⟩
  | list inside =>
      have opened : (Reading.operand outer chain).step .openBracket = .ok (.listStart outer chain) := rfl
      refine ⟨chain, _, ?_, rfl, rfl⟩
      rw [List.cons_append, Reading.steps_cons_of opened, inside.steps_listStart, inside.read]
      rfl
  | enclosed inside ih =>
      have opened : (Reading.operand outer chain).step .openParen =
        .ok (.operand (chain :: outer) .start) := rfl
      obtain ⟨after, value, read, closed⟩ := ih (chain :: outer) .start rfl
      refine ⟨chain, _, ?_, rfl, rfl⟩
      rw [List.cons_append, Reading.steps_cons_of opened, Reading.steps_append_of read, ← closed]
      rfl
  | sum operand ih =>
      obtain ⟨after, value, read, rfl, said⟩ := ih outer chain trivial
      refine ⟨after, value, read, rfl, rfl, ?_⟩
      rw [said, Chain.sum, show after.addend = none from fits]
      rfl
  | plus first second ihl ihr =>
      obtain ⟨after, left, readLeft, disjunct, conjunct, rfl⟩ := ihl outer chain fits
      obtain ⟨last, value, readRight, rfl, rfl⟩ := ihr outer (after.plus left) trivial
      refine ⟨after.plus left, _, ?_, disjunct, conjunct, rfl⟩
      rw [Reading.steps_append_of readLeft]
      exact readRight
  | product sum ih =>
      obtain ⟨after, value, read, disjunct, conjunct, rfl⟩ := ih outer chain fits.2
      refine ⟨after, value, read, disjunct, ?_⟩
      rw [Chain.product, conjunct, fits.1]
      rfl
  | and first second ihl ihr =>
      obtain ⟨after, value, readLeft, disjunct, rfl⟩ := ihl outer chain fits
      obtain ⟨last, right, readRight, same, conjunct, rfl⟩ := ihr outer (after.and value) rfl
      refine ⟨last, right, ?_, same.trans disjunct, ?_⟩
      · rw [Reading.steps_append_of readLeft]
        exact readRight
      · rw [Chain.product, conjunct]
        rfl
  | whole product ih =>
      have started : chain = .start := fits
      subst started
      obtain ⟨after, value, read, disjunct, rfl⟩ := ih outer .start ⟨rfl, rfl⟩
      refine ⟨after, value, read, ?_⟩
      change Chain.joined .or after.disjunct (after.product value) = after.product value
      rw [disjunct]
      rfl
  | or first second ihl ihr =>
      obtain ⟨after, value, readLeft, rfl⟩ := ihl outer chain fits
      obtain ⟨last, right, readRight, disjunct, rfl⟩ := ihr outer (after.or value) ⟨rfl, rfl⟩
      refine ⟨last, right, ?_, ?_⟩
      · rw [Reading.steps_append_of readLeft]
        exact readRight
      · change Chain.joined .or last.disjunct (last.product right) = _
        rw [disjunct]
        rfl

theorem Derives.ne_nil {phrase : Phrase} {tokens : List Token} {expr : Expr}
    (derived : Derives phrase tokens expr) : tokens ≠ [] := by
  induction derived <;> simp_all

/-- The parser accepts what the grammar derives. -/
theorem parse_of_derives {source : String} {located : List Located} {expr : Expr}
    (lexed : tokenize 0 source.toList = .ok located)
    (derived : Derives .whole (located.map Located.token) expr) : parse source = .ok expr := by
  obtain ⟨after, value, read, closed⟩ := derived.read [] .start rfl
  have ended : (Reading.operator [] after value).finish = .ok expr := congrArg Except.ok closed
  cases located with
  | nil => exact absurd rfl derived.ne_nil
  | cons first rest =>
      simp only [parse, lexed]
      exact Reading.run_of_steps read ended

end Narration.Expr
