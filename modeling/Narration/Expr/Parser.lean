import Narration.Expr
import Narration.Expr.Token
/-! Reading expressions from their textual form, one token at a time.

An expression is made of operands joined by `or`, `and` and `+`, which bind more tightly in this
order and group from the left. An operand is a name, a string, a bracketed list of strings and
pauses, or an expression in parentheses. A text without tokens is the empty literal. -/
namespace Narration.Expr

/-- The operands that stand left of the one being read, folded as far as their operators allow. -/
structure Chain where
  disjunct : Option Expr
  conjunct : Option Expr
  addend : Option Expr
  deriving DecidableEq, Repr

namespace Chain

def start : Chain := ⟨none, none, none⟩

def joined (combine : Expr → Expr → Expr) (left : Option Expr) (right : Expr) : Expr :=
  match left with
  | some left => combine left right
  | none => right

/-- The value of the innermost operator's operands once `operand` ends them. -/
def sum (chain : Chain) (operand : Expr) : Expr := joined .concat chain.addend operand

def product (chain : Chain) (value : Expr) : Expr := joined .and chain.conjunct value

/-- The whole chain, ended by `value`. -/
def close (chain : Chain) (value : Expr) : Expr :=
  joined .or chain.disjunct (chain.product value)

def plus (chain : Chain) (value : Expr) : Chain := { chain with addend := some value }

def and (chain : Chain) (value : Expr) : Chain :=
  ⟨chain.disjunct, some (chain.product value), none⟩

def or (chain : Chain) (value : Expr) : Chain := ⟨some (chain.close value), none, none⟩

end Chain

/-- What has been read. `outer` holds the chains around the open parentheses, innermost first. -/
inductive Reading where
  /-- An operand has to follow. -/
  | operand (outer : List Chain) (chain : Chain)
  /-- The operands since the last `or`, `and` or parenthesis make up `value`; an operator may follow. -/
  | operator (outer : List Chain) (chain : Chain) (value : Expr)
  /-- Behind an opening bracket. -/
  | listStart (outer : List Chain) (chain : Chain)
  /-- Behind a comma in brackets. -/
  | listItem (outer : List Chain) (chain : Chain) (items : List Fragment)
  /-- Behind an item in brackets. -/
  | listEnd (outer : List Chain) (chain : Chain) (items : List Fragment)
  deriving DecidableEq, Repr

namespace Reading

def start : Reading := .operand [] .start

def operandRead (outer : List Chain) (chain : Chain) (operand : Expr) : Reading :=
  .operator outer chain (chain.sum operand)

def readOperand (outer : List Chain) (chain : Chain) : Token → Except Expectation Reading
  | .ident name => .ok (operandRead outer chain (.reference name))
  | .str value => .ok (operandRead outer chain (.text value))
  | .openParen => .ok (.operand (chain :: outer) .start)
  | .openBracket => .ok (.listStart outer chain)
  | _ => .error .operand

def readOperator (outer : List Chain) (chain : Chain) (value : Expr) :
    Token → Except Expectation Reading
  | .plus => .ok (.operand outer (chain.plus value))
  | .and => .ok (.operand outer (chain.and value))
  | .or => .ok (.operand outer (chain.or value))
  | token =>
    match outer with
    | [] => .error .endOfExpression
    | enclosing :: outer =>
      if token = .closeParen then .ok (operandRead outer enclosing (chain.close value))
      else .error .closeParen

def readItem (outer : List Chain) (chain : Chain) (items : List Fragment) :
    Token → Except Expectation Reading
  | .str value => .ok (.listEnd outer chain (items ++ [.text value]))
  | .pause => .ok (.listEnd outer chain (items ++ [.pause]))
  | _ => .error .listItem

/-- Goes on by one token, or says what it should have been. -/
def step : Reading → Token → Except Expectation Reading
  | .operand outer chain, token => readOperand outer chain token
  | .operator outer chain value, token => readOperator outer chain value token
  | .listStart outer chain, token =>
    if token = .closeBracket then .ok (operandRead outer chain .empty)
    else readItem outer chain [] token
  | .listItem outer chain items, token => readItem outer chain items token
  | .listEnd outer chain items, token =>
    match token with
    | .closeBracket => .ok (operandRead outer chain (.literal items))
    | .comma => .ok (.listItem outer chain items)
    | _ => .error .listEnd

/-- The expression, if nothing has to follow what has been read. -/
def finish : Reading → Except Expectation Expr
  | .operator [] chain value => .ok (chain.close value)
  | .operator (_ :: _) _ _ => .error .closeParen
  | .operand _ _ => .error .operand
  | .listStart _ _ | .listItem _ _ _ => .error .listItem
  | .listEnd _ _ _ => .error .listEnd

/-- Reads the tokens of a text that has `size` bytes. -/
def run (size : Nat) (reading : Reading) : List Located → Except SyntaxError Expr
  | [] => reading.finish.mapError fun what => .expected what none size
  | located :: rest =>
    match reading.step located.token with
    | .ok next => next.run size rest
    | .error what => .error (.expected what (some located.token) located.offset)

end Reading

def parse (source : String) : Except SyntaxError Expr :=
  match tokenize 0 source.toList with
  | .error error => .error error
  | .ok [] => .ok .empty
  | .ok tokens => Reading.start.run source.utf8ByteSize tokens

end Narration.Expr
