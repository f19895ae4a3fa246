import Narration.Pattern.Parser
/-! Which regular expressions can be used. Texts are Unicode, but no properties of its characters are
known beyond ASCII, neither cases nor digits, blanks and characters of words. Without Unicode a
pattern may not match parts of a character. -/
namespace Narration.Pattern

structure Rules where
  unicode : Bool
  ignoreCase : Bool
  deriving DecidableEq, Repr

namespace Rules

def standard : Rules := ⟨true, false⟩

def change (rules : Rules) (flags : Flags) : Rules :=
  ⟨flags.state .unicode rules.unicode, flags.state .ignoreCase rules.ignoreCase⟩

end Rules

def isAscii (c : Char) : Bool := c.toNat < 0x80

def Literal.fits (rules : Rules) (literal : Literal) : Bool :=
  if rules.unicode then !rules.ignoreCase else !literal.asByte || isAscii literal.char

/-- In a set without Unicode every character is one byte. -/
def Literal.fitsSet (rules : Rules) (literal : Literal) : Bool :=
  rules.unicode || isAscii literal.char

def fitsShorthand (rules : Rules) (negated : Bool) : Bool := !rules.unicode && !negated

def fitsBrackets (rules : Rules) (negated : Bool) : Bool :=
  if rules.unicode then !rules.ignoreCase else !negated

mutual

def CharacterClass.fits (rules : Rules) : CharacterClass → Bool
  | .empty => true
  | .literal written => written.fitsSet rules
  | .range first last => first.fitsSet rules && last.fitsSet rules
  | .shorthand negated => fitsShorthand rules negated
  | .named negated => rules.unicode || !negated
  | .bracketed negated set => fitsBrackets rules negated && fits rules set
  | .union items => allFit rules items
  | .combined left right => fits rules left && fits rules right

def CharacterClass.allFit (rules : Rules) : List CharacterClass → Bool
  | [] => true
  | item :: rest => fits rules item && allFit rules rest

end

mutual

/-- The rules behind a pattern, if the pattern can be used. -/
def rulesBehind? (rules : Rules) : Pattern → Option Rules
  | .empty | .anchor => some rules
  | .literal written => if written.fits rules then some rules else none
  | .anyCharacter => if rules.unicode then some rules else none
  | .wordEdge => if rules.unicode then none else some rules
  | .shorthand negated => if fitsShorthand rules negated then some rules else none
  | .bracketed negated set =>
    if fitsBrackets rules negated && set.fits rules then some rules else none
  | .flags changes => some (rules.change changes)
  | .repeated body => rulesBehind? rules body
  | .group changes body => (rulesBehind? (rules.change changes) body).map fun _ => rules
  | .sequence items | .alternatives items => rulesBehindAll? rules items

def rulesBehindAll? (rules : Rules) : List Pattern → Option Rules
  | [] => some rules
  | item :: rest => do rulesBehindAll? (← rulesBehind? rules item) rest

end

def heightLimit : Nat := 250

/-- Whether a text is a pattern that can be used. -/
def isValid (s : List Char) : Bool :=
  (parse? s).any fun pattern =>
    pattern.height ≤ heightLimit && (rulesBehind? .standard pattern).isSome

end Narration.Pattern
