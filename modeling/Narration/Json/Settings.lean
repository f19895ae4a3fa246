import Narration.Config.Settings
import Narration.Json.Context
/-! Settings as structured values. -/
namespace Narration

namespace ProgressSettings

def fieldNames : List String := ["update_interval_ms", "complete_value"]

def toJson (settings : ProgressSettings) : Json :=
  .object (fieldNames.zip
    [.nat settings.updateInterval.toNat, .nat settings.completeValue.toNat])

def ofJson? (json : Json) : Option ProgressSettings := do
  match ← json.record? fieldNames with
  | [updateInterval, completeValue] =>
    return ⟨← Json.defaulted standard.updateInterval Json.uint64? updateInterval,
      ← Json.defaulted standard.completeValue Json.uint32? completeValue⟩
  | _ => none

end ProgressSettings

namespace EngineSettings

def fieldNames : List String := ["mode", "progress"]

def toJson (settings : EngineSettings) : Json :=
  .object (fieldNames.zip [settings.mode.toJson, settings.progress.toJson])

def ofJson? (json : Json) : Option EngineSettings := do
  match ← json.record? fieldNames with
  | [mode, progress] =>
    return ⟨← Json.defaulted standard.mode Mode.ofJson? mode,
      ← Json.defaulted standard.progress ProgressSettings.ofJson? progress⟩
  | _ => none

end EngineSettings

namespace Logging.Settings

def fieldNames : List String := ["level", "format", "output", "file", "color", "modules"]

def toJson (settings : Settings) : Json :=
  .object (fieldNames.zip
    [.string settings.level, .string settings.format, .string settings.output,
     .ofOption .string settings.file, .bool settings.color,
     .object (settings.modules.entries.map fun entry => (entry.1, .string entry.2))])

def modulesOfJson? : Json → Option (SortedMap String String)
  | .object fields => do
    return .ofList (← fields.mapM fun field => do return (field.1, ← field.2.string?))
  | _ => none

def ofJson? (json : Json) : Option Settings := do
  match ← json.record? fieldNames with
  | [level, format, output, file, color, modules] =>
    return {
      level := ← Json.defaulted standard.level Json.string? level
      format := ← Json.defaulted standard.format Json.string? format
      output := ← Json.defaulted standard.output Json.string? output
      file := ← Json.optional Json.string? file
      color := ← Json.defaulted standard.color Json.bool? color
      modules := ← Json.defaulted standard.modules modulesOfJson? modules }
  | _ => none

end Logging.Settings

namespace Settings

def fieldNames : List String := ["engine", "logging", "formats"]

def toJson (settings : Settings) : Json :=
  .object (fieldNames.zip
    [settings.engine.toJson, settings.logging.toJson, .ofOption .string settings.formats])

def ofJson? (json : Json) : Option Settings := do
  match ← json.record? fieldNames with
  | [engine, logging, formats] =>
    return ⟨← Json.defaulted standard.engine EngineSettings.ofJson? engine,
      ← Json.defaulted standard.logging Logging.Settings.ofJson? logging,
      ← Json.optional Json.string? formats⟩
  | _ => none

end Settings
end Narration
