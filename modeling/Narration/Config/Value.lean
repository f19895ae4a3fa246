import Narration.Text.Lowercase
import Narration.Toml.Value
/-! Values of settings before they have types, and how they are set one over another. The names in
tables are in lower case. -/
namespace Narration.Config

inductive Value where
  | nothing
  | boolean (value : Bool)
  | integer (value : Int)
  | float (value : Double)
  | text (value : String)
  | array (items : List Value)
  | table (entries : List (String × Value))
  deriving Repr, Inhabited

abbrev Entries := List (String × Value)

namespace Value

def entries : Value → Entries
  | .table entries => entries
  | _ => []

def items : Value → List Value
  | .array items => items
  | _ => []

end Value

namespace Entries

def put (name : String) (value : Value) : Entries → Entries
  | [] => [(name, value)]
  | entry :: rest => if entry.1 = name then (name, value) :: rest else entry :: put name value rest

def get? (entries : Entries) (name : String) : Option Value := entries.lookup name

end Entries

def foldedName (name : String) : String := Text.lowercase name

/-- The entry of a name made from the one that is there. -/
def Entries.change (name : String) (change : Option Value → Value) (entries : Entries) : Entries :=
  entries.put (foldedName name) (change (entries.get? (foldedName name)))

mutual

/-- A value set over what is there: a table goes into it entry by entry, any other value takes its
place. -/
def Value.above (there : Option Value) : Value → Value
  | .table entries =>
    if entries.isEmpty then there.getD (.table [])
    else .table (setAll ((there.map Value.entries).getD []) entries)
  | value => value

def Value.setAll (target : Entries) : List (String × Value) → Entries
  | [] => target
  | (name, value) :: rest => setAll (target.change name (above · value)) rest

end

mutual

def Value.ofToml : Toml.Value → Value
  | .string value => .text value
  | .integer value => .integer value
  | .float value => .float value
  | .boolean value => .boolean value
  | .datetime written => .text written
  | .array items => .array (ofTomlItems items)
  | .tables items => .array (ofTomlTables items)
  | .table _ entries => .table (ofTomlEntries entries)

def Value.ofTomlItems : List Toml.Value → List Value
  | [] => []
  | item :: rest => ofToml item :: ofTomlItems rest

def Value.ofTomlTables : List (List (String × Toml.Value)) → List Value
  | [] => []
  | entries :: rest => .table (ofTomlEntries entries) :: ofTomlTables rest

def Value.ofTomlEntries : List (String × Toml.Value) → Entries
  | [] => []
  | (name, value) :: rest => (name, ofToml value) :: ofTomlEntries rest

end

end Narration.Config
