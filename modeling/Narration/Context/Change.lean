import Narration.Context
/-! Changes that lead from one context to another. -/
namespace Narration

inductive ContextChange where
  /-- Back to the standard context. -/
  | reset
  | role (role : Category)
  | naturalRole
  | mode (mode : Mode)
  | formatType (formatType : FormatType)
  | alreadyFocused (value : Bool)
  | includeContext (value : Bool)
  | progressUpdate
  | range (first last : UInt64)
  | string (value : String)
  | recursing (value : Bool)
  | startOffset (offset : Option UInt64)
  | endOffset (offset : Option UInt64)
  deriving DecidableEq, Repr

namespace ContextChange

def apply (context : Context) : ContextChange → Context
  | .reset => .standard
  | .role category => context.withRole category
  | .naturalRole => context.withoutRole
  | .mode value => { context with mode := some value }
  | .formatType value => { context with formatType := some value }
  | .alreadyFocused value => { context with alreadyFocused := value }
  | .includeContext value => { context with includeContext := value }
  | .progressUpdate => { context with isProgressUpdate := true }
  | .range first last => context.withRange first last
  | .string value => { context with string := some value }
  | .recursing value => { context with recursing := value }
  | .startOffset offset => { context with startOffset := offset }
  | .endOffset offset => { context with endOffset := offset }

def applyAll (context : Context) (changes : List ContextChange) : Context :=
  changes.foldl apply context

end ContextChange
end Narration
