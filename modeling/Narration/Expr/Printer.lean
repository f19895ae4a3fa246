import Narration.Expr
/-! The spelling of an expression, in which only text and pauses of its literals appear. -/
namespace Narration.Expr

/-- The escapes that the spelling of a text needs. -/
def escapedChar (c : Char) : List Char :=
  if c = '"' || c = '\\' then ['\\', c]
  else if c = '\n' then ['\\', 'n']
  else if c = '\t' then ['\\', 't']
  else if c = '\r' then ['\\', 'r']
  else if c = '\x00' then ['\\', '0']
  else [c]

def textSpelling (value : String) : List Char :=
  '"' :: value.toList.flatMap escapedChar ++ ['"']

def fragmentSpelling? : Fragment → Option (List Char)
  | .text value => some (textSpelling value)
  | .pause => some "pause".toList
  | .voice _ | .tone _ _ => none

/-- How tightly the outermost operator binds. -/
def precedence : Expr → Nat
  | .or _ _ => 1
  | .and _ _ => 2
  | .concat _ _ => 3
  | .literal _ | .ref _ => 4

def enclosedIf (needed : Bool) (spelling : List Char) : List Char :=
  if needed then '(' :: spelling ++ [')'] else spelling

/-- Operators group from the left, so a right operand that binds as tightly is enclosed too. -/
def spelling : Expr → List Char
  | .literal fragments =>
    '[' :: (", ".toList).intercalate (fragments.filterMap fragmentSpelling?) ++ [']']
  | .ref name => name.text.toList
  | .concat left right =>
    enclosedIf (left.precedence < 3) left.spelling ++ " + ".toList ++
      enclosedIf (right.precedence ≤ 3) right.spelling
  | .or left right =>
    enclosedIf (left.precedence < 1) left.spelling ++ " or ".toList ++
      enclosedIf (right.precedence ≤ 1) right.spelling
  | .and left right =>
    enclosedIf (left.precedence < 2) left.spelling ++ " and ".toList ++
      enclosedIf (right.precedence ≤ 2) right.spelling

def display (expr : Expr) : String := String.ofList expr.spelling

end Narration.Expr
