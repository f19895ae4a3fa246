import Narration.Format
/-! Options of one resolution and the marks that fields leave for each other during a pass. -/
namespace Narration

/-- Offsets count bytes. -/
structure Context where
  /-- Takes precedence over the category that the object reports. -/
  role : Option Category
  mode : Option Mode
  formatType : Option FormatType
  /-- The target had the focus before; decides the format type where none is given. -/
  alreadyFocused : Bool
  /-- Whether the outermost expression stands between the lead and the trail of its mode. -/
  includeContext : Bool
  /-- The outermost level has been passed. -/
  recursing : Bool
  isProgressUpdate : Bool
  startOffset : Option UInt64
  endOffset : Option UInt64
  /-- Text of the sub-range, where the caller has it already. -/
  string : Option String
  deriving DecidableEq, Repr

namespace Context

def standard : Context :=
  { role := none, mode := none, formatType := none, alreadyFocused := false
    includeContext := true, recursing := false, isProgressUpdate := false
    startOffset := none, endOffset := none, string := none }

instance : Inhabited Context := ⟨standard⟩

def withRole (context : Context) (role : Category) : Context := { context with role := some role }

def withoutRole (context : Context) : Context := { context with role := none }

def withRange (context : Context) (first last : UInt64) : Context :=
  { context with startOffset := some first, endOffset := some last }

def range? (context : Context) : Option (UInt64 × UInt64) :=
  match context.startOffset, context.endOffset with
  | some first, some last => some (first, last)
  | _, _ => none

def effectiveFormatType (context : Context) : FormatType :=
  context.formatType.getD (.ofFocus context.alreadyFocused)

end Context

/-- What the description of an object stood in for. -/
inductive Fallback where
  | name
  | unrelatedLabels
  | alert
  deriving DecidableEq, Repr, Inhabited

namespace Fallback

def all : List Fallback := [.name, .unrelatedLabels, .alert]

end Fallback

/-- The fallbacks that took place. -/
structure Fallbacks where
  forName : Bool
  forUnrelatedLabels : Bool
  forAlert : Bool
  deriving DecidableEq, Repr

namespace Fallbacks

def none : Fallbacks := ⟨false, false, false⟩

instance : Inhabited Fallbacks := ⟨none⟩

def get (fallbacks : Fallbacks) : Fallback → Bool
  | .name => fallbacks.forName
  | .unrelatedLabels => fallbacks.forUnrelatedLabels
  | .alert => fallbacks.forAlert

def set (fallbacks : Fallbacks) (fallback : Fallback) (value : Bool) : Fallbacks :=
  match fallback with
  | .name => { fallbacks with forName := value }
  | .unrelatedLabels => { fallbacks with forUnrelatedLabels := value }
  | .alert => { fallbacks with forAlert := value }

def descriptionUsed (fallbacks : Fallbacks) : Bool := Fallback.all.any fallbacks.get

end Fallbacks
end Narration
