import Narration.Text.Quoted
/-! Units of output content and the line that shows them. -/
namespace Narration

/-- Voice that speaks the fragments after its marker. -/
inductive VoiceStyle where
  | default
  | uppercase
  | hyperlink
  | system
  | named (name : String)
  deriving DecidableEq, Repr, Inhabited

def VoiceStyle.display : VoiceStyle → String
  | .default => "Default"
  | .uppercase => "Uppercase"
  | .hyperlink => "Hyperlink"
  | .system => "System"
  | .named name => "Named(" ++ Text.quoted name ++ ")"

/-- One unit of output content. -/
inductive Fragment where
  | text (value : String)
  | voice (style : VoiceStyle)
  | pause
  | tone (frequencyHz durationMs : UInt32)
  deriving DecidableEq, Repr, Inhabited

namespace Fragment

def asText? : Fragment → Option String
  | .text value => some value
  | _ => none

/-- A text without characters carries no content. -/
def isBlank (fragment : Fragment) : Bool := fragment.asText? == some ""

def escapeNewlines : List Char → List Char
  | [] => []
  | c :: rest => (if c = '\n' then ['\\', 'n'] else [c]) ++ escapeNewlines rest

def display : Fragment → String
  | .text value => String.ofList (escapeNewlines value.toList)
  | .voice style => "<voice:" ++ style.display ++ ">"
  | .pause => "<pause>"
  | .tone frequencyHz durationMs =>
    "<tone:" ++ toString frequencyHz.toNat ++ "Hz/" ++ toString durationMs.toNat ++ "ms>"

/-- The shown forms on one line, those without characters left out. -/
def renderLine (fragments : List Fragment) : String :=
  " ".intercalate ((fragments.map display).filter (· ≠ ""))

/-- Text and pauses are the fragments that an expression can spell out. -/
def isSpellable : Fragment → Bool
  | .text _ | .pause => true
  | .voice _ | .tone _ _ => false

end Fragment
end Narration
