import Narration.Pattern.Support
import Narration.Text.Bytes
import Narration.Text.Numeral
import Narration.Text.Split
/-! The form of the directives that say which events of which modules are logged. -/
namespace Narration.Logging

/-- What has been read of a directive. -/
inductive DirectiveReading where
  | start
  /-- In a word that is a level or names a module. -/
  | word
  | span
  /-- In a field of a span whose text starts at an offset. -/
  | field (offset : Nat)
  /-- Behind the fields of a span. -/
  | fields
  /-- Behind a span. -/
  | spanEnd
  /-- In a level whose text starts at an offset. -/
  | level (offset : Nat)
  | complete
  deriving DecidableEq, Repr

namespace Directive

def levelWords : List String := ["", "error", "warn", "info", "debug", "trace", "off"]

/-- Levels are words or numbers from zero to five. -/
def isLevel (s : List Char) : Bool :=
  (Text.natural? s).any (· ≤ 5) || levelWords.contains (String.ofList (s.map Char.toLower))

/-- The text between two offsets is a level. -/
def levelBetween (text : String) (first last : Nat) : Bool :=
  (Text.slice? text first last).any fun level => isLevel level.toList

/-- The value of a field is a number, a truth value or a pattern. -/
def isValue (s : List Char) : Bool :=
  (Text.double? s).isSome || ["true", "false"].contains (String.ofList s) || Pattern.isValid s

/-- A field is a name, or a name and a value on both sides of an equals sign; what stands behind one
more equals sign does not count. -/
def isField (s : List Char) : Bool :=
  !s.isEmpty &&
    match Text.splitOn '=' s with
    | _ :: value :: _ => isValue value
    | _ => true

/-- The text between two offsets is a field. -/
def fieldBetween (text : String) (first last : Nat) : Bool :=
  (Text.slice? text first last).any fun field => isField field.toList

def startsWord (c : Char) : Bool := c = '-' || c = ':' || c = '_' || Text.isAlphanumeric c

/-- Goes on by the character at an offset; `none` if it does not fit. -/
def step (text : String) (offset : Nat) (c : Char) :
    DirectiveReading → Option DirectiveReading
  | .start =>
    if c = '[' then some .span else if startsWord c then some .word else none
  | .word =>
    if c = '=' then some (.level (offset + 1))
    else if c = '[' then some .span
    else if c = ',' then some .complete
    else some .word
  | .span =>
    if c = ']' then some .spanEnd
    else if c = '\x7b' then some (.field (offset + 1))
    else some .span
  | .field first =>
    if c = '\x7d' then (if fieldBetween text first offset then some .fields else none)
    else if c = ',' then
      (if fieldBetween text first offset then some (.field (offset + 1)) else none)
    else some (.field first)
  | .fields => if c = ']' then some .spanEnd else none
  | .spanEnd => if c = '=' then some (.level (offset + 1)) else none
  | .level first =>
    if c = ',' then (if levelBetween text first offset then some .complete else none)
    else some (.level first)
  | .complete => none

def run (text : String) (offset : Nat) (reading : DirectiveReading) :
    List Char → Option DirectiveReading
  | [] => some reading
  | c :: rest => do run text (offset + c.utf8Size) (← step text offset c reading) rest

/-- Whether nothing has to follow. -/
def isEnd (text : String) : DirectiveReading → Bool
  | .word | .spanEnd | .complete => true
  | .level first => levelBetween text first text.utf8ByteSize
  | .start | .span | .field _ | .fields => false

/-- Whether a text is a directive. Blanks around it do not count, but offsets of fields and levels
start at the first character that is not blank and lead into the text with its blanks. -/
def isValid (text : String) : Bool :=
  (run text 0 .start (Text.trimBlank text.toList)).any (isEnd text)

end Directive
end Narration.Logging
