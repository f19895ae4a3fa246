import Narration.Fragment
import Narration.Json
import Narration.QuantityName
/-! Fragments as structured values. -/
namespace Narration

namespace VoiceStyle

def toJson : VoiceStyle → Json
  | .default => .string "default"
  | .uppercase => .string "uppercase"
  | .hyperlink => .string "hyperlink"
  | .system => .string "system"
  | .named name => .object [("named", .string name)]

def ofJson? (json : Json) : Option VoiceStyle :=
  match json with
  | .object [("named", name)] => name.string?.map .named
  | _ =>
    json.choice? [("default", .default), ("uppercase", .uppercase), ("hyperlink", .hyperlink),
      ("system", .system)]

end VoiceStyle

namespace Fragment

def toJson : Fragment → Json
  | .text value => .object [("kind", .string "text"), ("value", .string value)]
  | .voice style => .object [("kind", .string "voice"), ("value", style.toJson)]
  | .pause => .object [("kind", .string "pause")]
  | .tone frequencyHz durationMs =>
    .object [("kind", .string "tone"),
      ("value", .object [("frequency_hz", .nat frequencyHz.toNat),
        ("duration_ms", .nat durationMs.toNat)])]

def toneOfJson? (json : Json) : Option Fragment := do
  match json with
  | .object fields =>
    return .tone (← (fields.lookup "frequency_hz").bind Json.uint32?)
      (← (fields.lookup "duration_ms").bind Json.uint32?)
  | _ => none

def textOfValue? (value : Option Json) : Option Fragment := (value.bind Json.string?).map .text

def voiceOfValue? (value : Option Json) : Option Fragment :=
  (value.bind VoiceStyle.ofJson?).map .voice

def toneOfValue? (value : Option Json) : Option Fragment := value.bind toneOfJson?

/-- Only a pause has no value. -/
def pauseOfValue? : Option Json → Option Fragment
  | none | some .null => some .pause
  | some _ => none

/-- The reader of the values of a kind. -/
def kindOfJson? (kind : Json) : Option (Option Json → Option Fragment) :=
  kind.choice? [("text", textOfValue?), ("voice", voiceOfValue?), ("pause", pauseOfValue?),
    ("tone", toneOfValue?)]

/-- A fragment of a kind and its value, which may also be the two items of an array. -/
def ofJson? : Json → Option Fragment
  | .object fields => do (← kindOfJson? (← fields.lookup "kind")) (fields.lookup "value")
  | .array [kind, value] => do (← kindOfJson? kind) (some value)
  | _ => none

def listToJson (fragments : List Fragment) : Json := .array (fragments.map toJson)

def listOfJson? : Json → Option (List Fragment)
  | .array items => items.mapM ofJson?
  | _ => none

end Fragment

/-- The name as it is written. -/
def QuantityName.ofJson? (json : Json) : Option QuantityName := json.string?.map (⟨·⟩)

def QuantityName.toJson (name : QuantityName) : Json := .string name.text

end Narration
