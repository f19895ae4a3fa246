/-! Regular expressions, as far as it decides which of them can be used. -/
namespace Narration

namespace Pattern

inductive Flag where
  | ignoreCase
  | everyLine
  | wholeText
  | swapGreed
  | unicode
  | carriageReturns
  | verbose
  deriving DecidableEq, Repr

def Flag.ofLetter? : Char → Option Flag
  | 'i' => some .ignoreCase
  | 'm' => some .everyLine
  | 's' => some .wholeText
  | 'U' => some .swapGreed
  | 'u' => some .unicode
  | 'R' => some .carriageReturns
  | 'x' => some .verbose
  | _ => none

/-- Flags that are set or cleared. -/
abbrev Flags := List (Flag × Bool)

/-- The state of a flag after a change. -/
def Flags.state (flags : Flags) (flag : Flag) (before : Bool) : Bool :=
  (flags.lookup flag).getD before

structure Literal where
  char : Char
  /-- Whether it is written as the two hexadecimal digits of a byte. -/
  asByte : Bool
  deriving DecidableEq, Repr

/-- A set of characters in brackets and what stands in it. -/
inductive CharacterClass where
  | empty
  | literal (literal : Literal)
  | range (first last : Literal)
  /-- Digits, blanks or characters of words by a letter behind a backslash. -/
  | shorthand (negated : Bool)
  /-- A set of ASCII characters by its name. -/
  | named (negated : Bool)
  | bracketed (negated : Bool) (set : CharacterClass)
  | union (items : List CharacterClass)
  /-- An intersection or a difference of two sets. -/
  | combined (left right : CharacterClass)
  deriving Repr

def CharacterClass.ofItems : List CharacterClass → CharacterClass
  | [] => .empty
  | [item] => item
  | items => .union items

end Pattern

inductive Pattern where
  | empty
  | literal (literal : Pattern.Literal)
  | anyCharacter
  /-- The start or end of a line or of the text. -/
  | anchor
  /-- The start or end of a word. -/
  | wordEdge
  | shorthand (negated : Bool)
  | bracketed (negated : Bool) (set : Pattern.CharacterClass)
  /-- Flags for what follows in the same group. -/
  | flags (flags : Pattern.Flags)
  | repeated (body : Pattern)
  | group (flags : Pattern.Flags) (body : Pattern)
  | sequence (items : List Pattern)
  | alternatives (branches : List Pattern)
  deriving Repr

namespace Pattern

def ofItems : List Pattern → Pattern
  | [] => .empty
  | [item] => item
  | items => .sequence items

mutual

/-- How deep sets of characters are nested. -/
def CharacterClass.height : CharacterClass → Nat
  | .empty | .literal _ | .range _ _ | .shorthand _ | .named _ => 0
  | .bracketed _ set => height set + 1
  | .union items => maxHeight items + 1
  | .combined left right => max (height left) (height right) + 1

def CharacterClass.maxHeight : List CharacterClass → Nat
  | [] => 0
  | item :: rest => max (height item) (maxHeight rest)

end

mutual

def height : Pattern → Nat
  | .empty | .literal _ | .anyCharacter | .anchor | .wordEdge | .shorthand _ | .flags _ => 0
  | .bracketed _ set => set.height + 1
  | .repeated body | .group _ body => height body + 1
  | .sequence items | .alternatives items => maxHeight items + 1

def maxHeight : List Pattern → Nat
  | [] => 0
  | item :: rest => max (height item) (maxHeight rest)

end

end Pattern
end Narration
