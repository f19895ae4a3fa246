import Narration.Config.Value
import Narration.Text.Numeral
import Narration.Text.Split
/-! Keys: names joined by points, each with positions in brackets behind it. -/
namespace Narration.Config

inductive Step where
  | name (name : String)
  /-- A position in an array; a negative one counts from the end. -/
  | position (position : Int)
  deriving DecidableEq, Repr

/-- The way from a table of settings to one value. -/
structure Key where
  first : String
  steps : List Step
  deriving DecidableEq, Repr

namespace Key

def isNameChar (c : Char) : Bool :=
  c.isAlphanum || c = ' ' || c = '_' || c = '-'

def isGap (c : Char) : Bool := c = ' ' || c = '\t'

/-- Digits, perhaps behind a minus sign and between blanks, for a number of 64 bits. -/
def position? (s : List Char) : Option Int := do
  let s := ((s.dropWhile isGap).reverse.dropWhile isGap).reverse
  let position ← if s.head? = some '+' then none else Text.integer? s
  if Toml.fitsInteger position then some position else none

/-- A position with the bracket that closes it. -/
def closed? (s : List Char) : Option Step :=
  if s.getLast? = some ']' then (position? s.dropLast).map .position else none

def positions? (s : List Char) : Option (List Step) :=
  match Text.splitOn '[' s with
  | [] :: positions => positions.mapM closed?
  | _ => none

/-- A name with the positions behind it. -/
def part? (s : List Char) : Option (String × List Step) :=
  let name := s.takeWhile isNameChar
  if name.isEmpty then none
  else (positions? (s.dropWhile isNameChar)).map (String.ofList name, ·)

def ofParts? : List (String × List Step) → Option Key
  | [] => none
  | first :: rest =>
    some ⟨first.1, first.2 ++ rest.flatMap fun part => .name part.1 :: part.2⟩

def parse? (text : String) : Option Key := do
  ofParts? (← (Text.splitOn '.' text.toList).mapM part?)

/-- A text that has not the form of a key is one name as it is. -/
def ofText (text : String) : Key := (parse? text).getD ⟨text, []⟩

end Key

namespace Value

/-- The index that a position stands for in an array of the given size. -/
def index (size : Nat) (position : Int) : Nat :=
  if 0 ≤ position then position.toNat else size - (-position).toNat

/-- The items with the one at a position changed, filled up with nothing as needed. -/
def changeItem (position : Int) (change : Value → Value) (items : List Value) : List Value :=
  let index := index items.length position
  let missing := List.replicate (index + 1 - items.length) Value.nothing
  (items ++ missing).modify index change

/-- Sets a value at the end of steps. A table or an array that a step needs takes the place of any
other value. -/
def along (value : Value) : List Step → Option Value → Value
  | [], there => value.above there
  | .name name :: steps, there =>
    .table (Entries.change name (along value steps) ((there.map entries).getD []))
  | .position position :: steps, there =>
    .array (changeItem position
      (fun item => if steps.isEmpty then value else along value steps (some item))
      ((there.map items).getD []))

end Value

/-- Sets a value under a key. -/
def Key.set (key : Key) (value : Value) (target : Entries) : Entries :=
  target.change key.first (value.along key.steps)

end Narration.Config
