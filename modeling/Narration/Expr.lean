import Narration.Fragment
import Narration.QuantityName
/-! Format expressions: which quantities and fixed fragments make up a presentation. -/
namespace Narration

inductive Expr where
  /-- Fixed fragments. -/
  | literal (fragments : List Fragment)
  /-- What the named quantity says. -/
  | ref (name : QuantityName)
  /-- Left, then right. -/
  | concat (left right : Expr)
  /-- Left, or right where left says nothing. -/
  | or (left right : Expr)
  /-- Right, or nothing where left says nothing. -/
  | and (left right : Expr)
  deriving DecidableEq, Repr, Inhabited

namespace Expr

def empty : Expr := .literal []

def text (value : String) : Expr := .literal [.text value]

def reference (name : String) : Expr := .ref (.normalize name)

/-- The parts one after another, grouped from the left. -/
def sequence : List Expr → Expr
  | [] => empty
  | first :: rest => rest.foldl .concat first

def wrap (lead : Option Expr) (body : Expr) (trail : Option Expr) : Expr :=
  let led := match lead with
    | some lead => .concat lead body
    | none => body
  match trail with
  | some trail => .concat led trail
  | none => led

/-- Whether the expression says nothing, whatever its quantities say. -/
def isEmpty : Expr → Bool
  | .literal fragments => fragments.isEmpty
  | .ref _ => false
  | .concat left right | .or left right => left.isEmpty && right.isEmpty
  | .and left right => left.isEmpty || right.isEmpty

/-- The names referred to, from left to right, as often as they occur. -/
def references : Expr → List QuantityName
  | .literal _ => []
  | .ref name => [name]
  | .concat left right | .or left right | .and left right => left.references ++ right.references

def mentions (expr : Expr) (name : String) : Bool :=
  expr.references.any (·.text == name)

end Expr
end Narration
