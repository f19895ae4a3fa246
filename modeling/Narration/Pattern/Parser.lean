import Narration.Pattern
import Narration.Text.Alphanumeric
import Narration.Text.Blank
/-! Reading regular expressions. They stand between braces, so no closing brace is in them, and there
are no counts of repetitions. -/
namespace Narration.Pattern

/-- The text behind blanks and comments, which end with their lines. -/
def skipComments (inComment : Bool) : List Char → List Char
  | [] => []
  | c :: rest =>
    if inComment then skipComments (c ≠ '\n') rest
    else if Text.isBlank c then skipComments false rest
    else if c = '#' then skipComments true rest
    else c :: rest

/-- In a verbose pattern blanks and comments do not count. -/
def skip (verbose : Bool) (s : List Char) : List Char :=
  if verbose then skipComments false s else s

/-- The next character. In a verbose pattern it stands behind blanks and the sign of a comment, if
any other character follows. -/
def next? (verbose : Bool) (s : List Char) : Option Char :=
  let behind :=
    match s.dropWhile Text.isBlank with
    | '#' :: rest => rest.dropWhile Text.isBlank
    | rest => rest
  if verbose then behind.head?.or s.head? else s.head?

def hexDigit? (c : Char) : Option Nat :=
  if '0' ≤ c && c ≤ '9' then some (c.toNat - '0'.toNat)
  else if 'a' ≤ c && c ≤ 'f' then some (c.toNat - 'a'.toNat + 10)
  else if 'A' ≤ c && c ≤ 'F' then some (c.toNat - 'A'.toNat + 10)
  else none

/-- Goes on with `count` hexadecimal digits behind digits of the value `total`. -/
def hexNumber? (verbose : Bool) (total : Nat) : Nat → List Char → Option (Nat × List Char)
  | 0, s => some (total, s)
  | count + 1, s =>
    match skip verbose s with
    | c :: rest => do hexNumber? verbose (16 * total + (← hexDigit? c)) count rest
    | [] => none

def hexLiteral? (verbose : Bool) (count : Nat) (s : List Char) : Option (Pattern × List Char) := do
  let (code, rest) ← hexNumber? verbose 0 count s
  guard code.isValidChar
  return (.literal ⟨.ofNat code, count = 2⟩, rest)

def controls : List (Char × Char) :=
  [('a', '\x07'), ('f', '\x0c'), ('t', '\t'), ('n', '\n'), ('r', '\r'), ('v', '\x0b')]

/-- What a character stands for behind a backslash. -/
def escaped? (c : Char) : Option Pattern :=
  if ['d', 's', 'w'].contains c then some (.shorthand false)
  else if ['D', 'S', 'W'].contains c then some (.shorthand true)
  else if ['A', 'z'].contains c then some .anchor
  else if ['b', 'B', '<', '>'].contains c then some .wordEdge
  else if c.toNat < 0x80 && !c.isAlphanum then some (.literal ⟨c, false⟩)
  else (controls.lookup c).map fun control => .literal ⟨control, false⟩

def escape? (verbose : Bool) : List Char → Option (Pattern × List Char)
  | 'x' :: rest => hexLiteral? verbose 2 rest
  | 'u' :: rest => hexLiteral? verbose 4 rest
  | 'U' :: rest => hexLiteral? verbose 8 rest
  | c :: rest => (escaped? c).map (·, rest)
  | [] => none

namespace CharacterClass

def names : List String :=
  ["alnum", "alpha", "ascii", "blank", "cntrl", "digit", "graph", "lower", "print", "punct",
   "space", "upper", "word", "xdigit"]

/-- A name between colons behind an opening bracket, up to the closing one. -/
def named? : List Char → Option (CharacterClass × List Char)
  | ':' :: rest =>
    let (negated, rest) := match rest with
      | '^' :: rest => (true, rest)
      | _ => (false, rest)
    match rest.dropWhile (· ≠ ':') with
    | ':' :: ']' :: behind =>
      if names.contains (String.ofList (rest.takeWhile (· ≠ ':'))) then some (.named negated, behind)
      else none
    | _ => none
  | _ => none

/-- A character or an escape. -/
def atom? (verbose : Bool) : List Char → Option (Pattern × List Char)
  | '\\' :: rest => escape? verbose rest
  | c :: rest => some (.literal ⟨c, false⟩, rest)
  | [] => none

/-- Anchors and edges of words are no characters. -/
def ofAtom? : Pattern → Option CharacterClass
  | .literal written => some (.literal written)
  | .shorthand negated => some (.shorthand negated)
  | _ => none

def range? : Pattern → Pattern → Option CharacterClass
  | .literal first, .literal last =>
    if first.char ≤ last.char then some (.range first last) else none
  | _, _ => none

/-- An atom, or a range of two with a hyphen between them. A hyphen in front of the closing bracket
or of one more hyphen is none of a range. -/
def item? (verbose : Bool) (s : List Char) : Option (CharacterClass × List Char) := do
  let (first, rest) ← atom? verbose s
  match skip verbose rest with
  | '-' :: behind =>
    if [some ']', some '-'].contains (next? verbose behind) then
      return (← ofAtom? first, '-' :: behind)
    else
      let (last, rest) ← atom? verbose (skip verbose behind)
      return (← range? first last, rest)
  | rest => return (← ofAtom? first, rest)

/-- The hyphens in front of all other items, latest first; without any of them, a closing bracket
stands for itself. -/
def leading (verbose : Bool) : Nat → List CharacterClass → List Char →
    List CharacterClass × List Char
  | 0, items, s => (items, s)
  | fuel + 1, items, s =>
    match s with
    | '-' :: rest => leading verbose fuel (.literal ⟨'-', false⟩ :: items) (skip verbose rest)
    | ']' :: rest =>
      if items.isEmpty then ([.literal ⟨']', false⟩], skip verbose rest) else (items, s)
    | _ => (items, s)

/-- The set of an operation, if there was one, and of the items behind it, latest first. -/
def joined (left : Option CharacterClass) (items : List CharacterClass) : CharacterClass :=
  match left with
  | none => ofItems items.reverse
  | some left => .combined left (ofItems items.reverse)

mutual

/-- What stands between brackets, behind the opening one. -/
def body? (verbose : Bool) : Nat → List Char → Option ((Bool × CharacterClass) × List Char)
  | 0, _ => none
  | fuel + 1, s => do
    let (negated, s) := match skip verbose s with
      | '^' :: rest => (true, skip verbose rest)
      | s => (false, s)
    let (items, rest) := leading verbose s.length [] s
    let (set, rest) ← set? verbose fuel none items rest
    return ((negated, set), rest)

/-- The rest of a set up to its closing bracket. -/
def set? (verbose : Bool) : Nat → Option CharacterClass → List CharacterClass → List Char →
    Option (CharacterClass × List Char)
  | 0, _, _, _ => none
  | fuel + 1, left, items, s =>
    match skip verbose s with
    | ']' :: rest => some (joined left items, rest)
    | '[' :: rest => do
      match named? rest with
      | some (item, rest) => set? verbose fuel left (item :: items) rest
      | none =>
        let ((negated, inner), rest) ← body? verbose fuel rest
        set? verbose fuel left (.bracketed negated inner :: items) rest
    | '&' :: '&' :: rest | '-' :: '-' :: rest | '~' :: '~' :: rest =>
      set? verbose fuel (some (joined left items)) [] rest
    | s => do
      let (item, rest) ← item? verbose s
      set? verbose fuel left (item :: items) rest

end

end CharacterClass

/-- Letters of flags; those behind a hyphen are cleared. -/
def Flags.ofText? (s : List Char) : Option Flags := do
  let on := s.takeWhile (· ≠ '-')
  let hyphen := s.dropWhile (· ≠ '-')
  let off := hyphen.drop 1
  guard (off.isEmpty = hyphen.isEmpty && (on ++ off).eraseDups = on ++ off)
  let settings := on.map (·, true) ++ off.map (·, false)
  settings.mapM fun setting => (Flag.ofLetter? setting.1).map (·, setting.2)

/-- What stands behind the opening parenthesis of a group. -/
inductive GroupStart where
  | group (flags : Flags) (name : Option String)
  /-- No group, but flags for the group around it. -/
  | flags (flags : Flags)
  deriving DecidableEq, Repr

def startsName (c : Char) : Bool := c = '_' || Text.isAlphabetic c

def continuesName (c : Char) : Bool := ['_', '.', '[', ']'].contains c || Text.isAlphanumeric c

def groupName? (s : List Char) : Option (String × List Char) := do
  let name := s.takeWhile (· ≠ '>')
  guard (name.head?.any startsName && (name.drop 1).all continuesName)
  match s.dropWhile (· ≠ '>') with
  | _ :: rest => return (String.ofList name, rest)
  | [] => none

/-- Conditions on the text around a match are not supported. -/
def groupStart? (s : List Char) : Option (GroupStart × List Char) :=
  match s with
  | '?' :: 'P' :: '<' :: rest | '?' :: '<' :: rest =>
    (groupName? rest).map fun (name, rest) => (.group [] (some name), rest)
  | '?' :: rest => do
    let flags ← Flags.ofText? (rest.takeWhile fun c => c ≠ ':' && c ≠ ')')
    match rest.dropWhile fun c => c ≠ ':' && c ≠ ')' with
    | ':' :: rest => return (.group flags none, rest)
    | ')' :: rest => if flags.isEmpty then none else return (.flags flags, rest)
    | _ => none
  | _ => some (.group [] none, s)

/-- What has been read of a group that is open, latest first. -/
structure OpenGroup where
  flags : Flags
  verbose : Bool
  branches : List Pattern
  items : List Pattern
  deriving Repr

namespace OpenGroup

def start (flags : Flags) (verbose : Bool) : OpenGroup := ⟨flags, verbose, [], []⟩

def branch (group : OpenGroup) : Pattern := ofItems group.items.reverse

def pattern (group : OpenGroup) : Pattern :=
  if group.branches.isEmpty then group.branch
  else .alternatives (group.branch :: group.branches).reverse

def add (item : Pattern) (group : OpenGroup) : OpenGroup :=
  { group with items := item :: group.items }

def nextBranch (group : OpenGroup) : OpenGroup :=
  { group with branches := group.branch :: group.branches, items := [] }

/-- Repeats the latest item, which has to be there and may not be flags. -/
def repeatLast? (group : OpenGroup) : Option OpenGroup :=
  match group.items with
  | [] | .flags _ :: _ => none
  | item :: items => some { group with items := .repeated item :: items }

def setFlags (flags : Flags) (group : OpenGroup) : OpenGroup :=
  { group.add (.flags flags) with verbose := flags.state .verbose group.verbose }

end OpenGroup

/-- What has been read of a pattern: the names of its groups, the innermost open group and those
around it. -/
structure Reading where
  names : List String
  inner : OpenGroup
  outer : List OpenGroup
  deriving Repr

namespace Reading

/-- The whole pattern counts as a group. -/
def start : Reading := ⟨[], .start [] false, []⟩

def add (reading : Reading) (item : Pattern) : Reading :=
  { reading with inner := reading.inner.add item }

/-- The names of groups differ from each other. -/
def openGroup? (reading : Reading) (flags : Flags) (name : Option String) : Option Reading := do
  guard (name.all fun name => !reading.names.contains name)
  let group := OpenGroup.start flags (flags.state .verbose reading.inner.verbose)
  return ⟨name.toList ++ reading.names, group, reading.inner :: reading.outer⟩

def closeGroup? (reading : Reading) : Option Reading :=
  match reading.outer with
  | [] => none
  | around :: outer =>
    some ⟨reading.names, around.add (.group reading.inner.flags reading.inner.pattern), outer⟩

/-- Goes on by what the text starts with. A sign of repetition may have a question mark behind it. -/
def step? (reading : Reading) (s : List Char) : Option (Reading × List Char) :=
  let verbose := reading.inner.verbose
  match s with
  | [] => none
  | '(' :: rest => do
    match ← groupStart? (skip verbose rest) with
    | (.flags changes, rest) =>
      return ({ reading with inner := reading.inner.setFlags changes }, rest)
    | (.group changes name, rest) => return (← reading.openGroup? changes name, rest)
  | ')' :: rest => reading.closeGroup?.map (·, rest)
  | '|' :: rest => some ({ reading with inner := reading.inner.nextBranch }, rest)
  | '[' :: rest => do
    let ((negated, set), rest) ← CharacterClass.body? verbose (2 * s.length) rest
    return (reading.add (.bracketed negated set), rest)
  | '\\' :: rest => (escape? verbose rest).map fun (item, rest) => (reading.add item, rest)
  | '\x7b' :: _ => none
  | '.' :: rest => some (reading.add .anyCharacter, rest)
  | '^' :: rest | '$' :: rest => some (reading.add .anchor, rest)
  | c :: rest =>
    if ['?', '*', '+'].contains c then do
      let rest := match rest with
        | '?' :: rest => rest
        | _ => rest
      return ({ reading with inner := ← reading.inner.repeatLast? }, rest)
    else some (reading.add (.literal ⟨c, false⟩), rest)

/-- The pattern at the end of the text, where no group may be open. -/
def run? : Nat → Reading → List Char → Option Pattern
  | 0, _, _ => none
  | fuel + 1, reading, s =>
    match skip reading.inner.verbose s with
    | [] => if reading.outer.isEmpty then some reading.inner.pattern else none
    | s => do
      let (reading, rest) ← reading.step? s
      run? fuel reading rest

end Reading

/-- The pattern that a text spells out. Every step reads a character. -/
def parse? (s : List Char) : Option Pattern := Reading.start.run? (s.length + 1) s

end Narration.Pattern
