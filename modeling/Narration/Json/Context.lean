import Narration.Context
import Narration.Json
/-! Contexts and fallbacks as structured values. -/
namespace Narration

def Category.toJson (category : Category) : Json := .string category.name

def Category.ofJson? (json : Json) : Option Category := json.string?.map (⟨·⟩)

def Mode.toJson (mode : Mode) : Json := .string mode.name

def Mode.ofJson? (json : Json) : Option Mode :=
  json.choice? (Mode.all.map fun mode => (mode.name, mode))

/-- A format type is written by its name alone. -/
def FormatType.toJson (formatType : FormatType) : Json := .string formatType.name

def FormatType.ofJson? (json : Json) : Option FormatType := json.string?.bind FormatType.ofName?

def Fallback.jsonName : Fallback → String
  | .name => "usedDescriptionForName"
  | .unrelatedLabels => "usedDescriptionForUnrelatedLabels"
  | .alert => "usedDescriptionForAlert"

def Fallback.toJson (fallback : Fallback) : Json := .string fallback.jsonName

def Fallback.ofJson? (json : Json) : Option Fallback :=
  json.choice? (Fallback.all.map fun fallback => (fallback.jsonName, fallback))

namespace Fallbacks

def fieldNames : List String :=
  ["used_description_for_name", "used_description_for_unrelated_labels",
    "used_description_for_alert"]

def toJson (fallbacks : Fallbacks) : Json :=
  .object (fieldNames.zip (Fallback.all.map fun fallback => .bool (fallbacks.get fallback)))

def ofJson? (json : Json) : Option Fallbacks := do
  match ← json.record? fieldNames with
  | [name, unrelatedLabels, alert] =>
    return ⟨← Json.required Json.bool? name, ← Json.required Json.bool? unrelatedLabels,
      ← Json.required Json.bool? alert⟩
  | _ => none

end Fallbacks

namespace Context

def fieldNames : List String :=
  ["role", "mode", "format_type", "already_focused", "include_context", "recursing",
    "is_progress_bar_update", "start_offset", "end_offset", "string"]

def toJson (context : Context) : Json :=
  let offset (value : UInt64) : Json := .nat value.toNat
  .object (fieldNames.zip
    [.ofOption Category.toJson context.role,
     .ofOption Mode.toJson context.mode,
     .ofOption FormatType.toJson context.formatType,
     .bool context.alreadyFocused,
     .bool context.includeContext,
     .bool context.recursing,
     .bool context.isProgressUpdate,
     .ofOption offset context.startOffset,
     .ofOption offset context.endOffset,
     .ofOption .string context.string])

def ofJson? (json : Json) : Option Context := do
  match ← json.record? fieldNames with
  | [role, mode, formatType, alreadyFocused, includeContext, recursing, isProgressUpdate,
      startOffset, endOffset, string] =>
    return {
      role := ← Json.optional Category.ofJson? role
      mode := ← Json.optional Mode.ofJson? mode
      formatType := ← Json.optional FormatType.ofJson? formatType
      alreadyFocused := ← Json.defaulted false Json.bool? alreadyFocused
      includeContext := ← Json.defaulted true Json.bool? includeContext
      recursing := ← Json.defaulted false Json.bool? recursing
      isProgressUpdate := ← Json.defaulted false Json.bool? isProgressUpdate
      startOffset := ← Json.optional Json.uint64? startOffset
      endOffset := ← Json.optional Json.uint64? endOffset
      string := ← Json.optional Json.string? string }
  | _ => none

end Context
end Narration
