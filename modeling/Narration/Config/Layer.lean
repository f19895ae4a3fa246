import Narration.Config.Key
import Narration.Config.Settings
import Narration.Environment
import Narration.Toml.Moment
/-! Sources of settings, each of which is set over the ones before it. -/
namespace Narration.Config

/-- Values under the texts of their keys. -/
abbrev Layer := List (String × Value)

namespace Layer

/-- The scalar settings that have a value in any case. -/
def standard : Layer :=
  let engine := Settings.standard.engine
  let logging := Settings.standard.logging
  [("engine.mode", .text engine.mode.name),
   ("engine.progress.update_interval_ms", .integer engine.progress.updateInterval.toNat),
   ("engine.progress.complete_value", .integer engine.progress.completeValue.toNat),
   ("logging.level", .text logging.level),
   ("logging.format", .text logging.format),
   ("logging.output", .text logging.output),
   ("logging.color", .boolean logging.color)]

/-- The text behind a byte order mark. -/
def withoutMark (source : String) : String :=
  match source.toList with
  | '\ufeff' :: rest => String.ofList rest
  | _ => source

/-- The layer of a file in TOML. A mark of the file is none of the document, which may have one. -/
def ofSource? (source : String) : Option Layer :=
  (Toml.parseWithMoments (withoutMark source)).map Value.ofTomlEntries

/-- The value of a variable: a truth value or a number, if it reads as one. -/
def variableValue (text : String) : Value :=
  let folded := Text.lowercase text
  if folded = "true" then .boolean true
  else if folded = "false" then .boolean false
  else
    match Text.integer? text.toList with
    | some value =>
      if Toml.fitsInteger value then .integer value
      else .float (.ofDecimal (value < 0) value.natAbs 0)
    | none =>
      match Text.double? text.toList with
      | some value => .float value
      | none => .text text

/-- What the names of variables that are settings start with, in lower case. -/
def variableLead : List Char := (applicationName ++ "__").toList

/-- Two underscores stand for a point. -/
def pointed : List Char → List Char
  | '_' :: '_' :: rest => '.' :: pointed rest
  | c :: rest => c :: pointed rest
  | [] => []

def ofVariable? (entry : String × String) : Option (String × Value) :=
  (variableLead.isPrefixOf? (Text.lowercase entry.1).toList).map fun name =>
    (String.ofList (pointed name), variableValue entry.2)

/-- The variables that are settings; of two spellings of one name the later one counts. -/
def ofEnvironment (environment : Environment) : Layer :=
  SortedMap.entries (.ofList (environment.values.entries.filterMap ofVariable?))

/-- Sets every value of a layer. -/
def setOver (entries : Entries) (layer : Layer) : Entries :=
  layer.foldl (fun entries item => (Key.ofText item.1).set item.2 entries) entries

/-- The settings of layers, the standard below all others. -/
def combine (layers : List Layer) : Entries := (standard :: layers).foldl setOver []

end Layer
end Narration.Config
