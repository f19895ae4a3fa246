/-! Structured values as they are exchanged with other programs, and how records are read from them.
A record is an object, whose other fields are ignored, or an array of its fields in order. -/
namespace Narration

inductive Json where
  | null
  | bool (value : Bool)
  /-- Digits without the point, and how many of them stand behind it. -/
  | number (digits : Int) (places : Nat)
  | string (value : String)
  | array (items : List Json)
  | object (fields : List (String × Json))
  deriving Repr, Inhabited

namespace Json

def int (value : Int) : Json := .number value 0

def nat (value : Nat) : Json := .number value 0

def ofOption {α : Type} (write : α → Json) : Option α → Json
  | none => .null
  | some value => write value

def bool? : Json → Option Bool
  | .bool value => some value
  | _ => none

def string? : Json → Option String
  | .string value => some value
  | _ => none

/-- A number written without a point that is not negative and below `bound`. -/
def natBelow? (bound : Nat) : Json → Option Nat
  | .number (.ofNat value) 0 => if value < bound then some value else none
  | _ => none

def uint32? (json : Json) : Option UInt32 := (json.natBelow? UInt32.size).map .ofNat

def uint64? (json : Json) : Option UInt64 := (json.natBelow? UInt64.size).map .ofNat

/-- The fields of a record in the order of `names`, as far as they are there. -/
def record? (names : List String) : Json → Option (List (Option Json))
  | .object fields => some (names.map fun name => fields.lookup name)
  | .array items =>
    if items.length ≤ names.length then
      some (items.map some ++ List.replicate (names.length - items.length) none)
    else none
  | _ => none

/-- A field that has to be there. -/
def required {α : Type} (read : Json → Option α) (field : Option Json) : Option α :=
  field.bind read

/-- A field that may be missing, but not null. -/
def defaulted {α : Type} (standard : α) (read : Json → Option α) : Option Json → Option α
  | none => some standard
  | some json => read json

/-- A field that may be missing or null. -/
def optional {α : Type} (read : Json → Option α) : Option Json → Option (Option α)
  | none | some .null => some none
  | some json => (read json).map some

/-- A name from a list, by itself or as the only field of an object that says nothing else. -/
def choice? {α : Type} (choices : List (String × α)) : Json → Option α
  | .string name => choices.lookup name
  | .object [(name, .null)] => choices.lookup name
  | _ => none

end Json
end Narration
