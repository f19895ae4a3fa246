import Narration.Config.Layer
/-! Settings with their types, read from combined layers. Scalars turn into each other where their
texts allow it. -/
namespace Narration.Config.Value

def isOneOf (words : List String) (text : String) : Bool := words.contains (Text.lowercase text)

def bool? : Value → Option Bool
  | .boolean value => some value
  | .integer value => some (value ≠ 0)
  | .float value => some !value.isZero
  | .text written =>
    if isOneOf ["1", "true", "on", "yes"] written then some true
    else if isOneOf ["0", "false", "off", "no"] written then some false
    else none
  | _ => none

/-- A whole number of 64 bits. -/
def natural? : Value → Option Nat
  | .boolean value => some value.toNat
  | .integer value => if value < 0 then none else some value.toNat
  | .float value => some (value.roundBelow (UInt64.size - 1))
  | .text written =>
    if isOneOf ["true", "on", "yes"] written then some 1
    else if isOneOf ["false", "off", "no"] written then some 0
    else (Text.natural? written.toList).filter (· < UInt64.size)
  | _ => none

def uint64? (value : Value) : Option UInt64 := value.natural?.map .ofNat

/-- A whole number of 32 bits. -/
def uint32? (value : Value) : Option UInt32 :=
  (value.natural?.filter (· < UInt32.size)).map .ofNat

def text? : Value → Option String
  | .boolean value => some (if value then "true" else "false")
  | .integer value => some (toString value)
  | .float value => some value.display
  | .text written => some written
  | _ => none

/-- The only name of a table says as much as the name by itself. -/
def mode? (value : Value) : Option Mode :=
  let ofName? (name : String) : Option Mode := Mode.ofName? (Text.lowercase name)
  match value with
  | .text name => ofName? name
  | .table [entry] => ofName? entry.1
  | _ => none

/-- The members of a record by their names in a table, or by their order in an array. -/
def member? (value : Value) (name : String) (position : Nat) : Option Value :=
  match value with
  | .table entries => Entries.get? entries name
  | .array items => items[position]?
  | _ => none

def isRecord : Value → Bool
  | .table _ | .array _ => true
  | _ => false

/-- A setting that has a value in any case. -/
def defaulted {α : Type} (standard : α) (read : Value → Option α) : Option Value → Option α
  | none => some standard
  | some value => read value

def optional {α : Type} (read : Value → Option α) : Option Value → Option (Option α)
  | none | some .nothing => some none
  | some value => (read value).map some

def progress? (value : Value) : Option ProgressSettings := do
  guard value.isRecord
  let standard := ProgressSettings.standard
  return ⟨← defaulted standard.updateInterval uint64? (value.member? "update_interval_ms" 0),
    ← defaulted standard.completeValue uint32? (value.member? "complete_value" 1)⟩

def engine? (value : Value) : Option EngineSettings := do
  guard value.isRecord
  let standard := EngineSettings.standard
  return ⟨← defaulted standard.mode mode? (value.member? "mode" 0),
    ← defaulted standard.progress progress? (value.member? "progress" 1)⟩

def modules? : Value → Option (SortedMap String String)
  | .table entries => do
    return .ofList (← entries.mapM fun entry => do return (entry.1, ← entry.2.text?))
  | _ => none

def logging? (value : Value) : Option Logging.Settings := do
  guard value.isRecord
  let standard := Logging.Settings.standard
  return {
    level := ← defaulted standard.level text? (value.member? "level" 0)
    format := ← defaulted standard.format text? (value.member? "format" 1)
    output := ← defaulted standard.output text? (value.member? "output" 2)
    file := ← optional text? (value.member? "file" 3)
    color := ← defaulted standard.color bool? (value.member? "color" 4)
    modules := ← defaulted standard.modules modules? (value.member? "modules" 5) }

def settings? (value : Value) : Option Settings := do
  guard value.isRecord
  let standard := Settings.standard
  return ⟨← defaulted standard.engine engine? (value.member? "engine" 0),
    ← defaulted standard.logging logging? (value.member? "logging" 1),
    ← optional text? (value.member? "formats" 2)⟩

end Narration.Config.Value
