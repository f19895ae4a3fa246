import Narration.Engine.Invocation
import Narration.Verification
/-! Resolution of presentations. A pass evaluates the expression for a target's category, mode and
format type, and computes each quantity when the evaluation first reaches it. -/
namespace Narration

structure EngineSettings where
  /-- Where a context does not name a mode. -/
  mode : Mode
  progress : ProgressSettings
  deriving DecidableEq, Repr

def EngineSettings.standard : EngineSettings := ⟨.standard, .standard⟩

structure Engine (ω : Type) where
  objects : ObjectModel ω
  table : Table
  registry : Registry (Provider ω)
  settings : EngineSettings

/-- Runs a field; if it breaks down, that is an error of the field. -/
def guarded {σ α : Type} (action : Action σ α) : Action σ α := fun state =>
  match action state with
  | .error (.fault message) next => .error (.field (.panicked message)) next
  | result => result

/-- Runs a pass; if it breaks down, that is its outcome. -/
def contained {σ : Type} (action : Action σ Resolution) : Action σ Resolution := fun state =>
  match action state with
  | .error (.fault message) next => .ok (.skipped (.fault message) none) next
  | result => result

namespace Engine

variable {ω : Type} (engine : Engine ω)

def verify : List Defect := engine.table.verify engine.registry

/-- The category that a context asks for, or that the object reports. -/
def categoryOf (target : Target) (context : Context) : Action (State ω) (Option Category) :=
  match context.role with
  | some role => return some role
  | none => ask fun world => engine.objects.category world target

def invocation (below : Host ω) (context : Context) (key : FormatKey) (expression : Expr) :
    Invocation ω :=
  ⟨engine.objects, below, context, key, expression, engine.table.get? key⟩

/-- A lead or trail that refers to an unknown quantity is left out, so that it cannot spoil every
presentation of its mode. -/
def usable (expr : Expr) : Bool :=
  expr.references.all fun name => name.isReserved || engine.registry.contains name

/-- The expression of an outermost pass. -/
def outermost (context : Context) (body : Expr) : Expr :=
  if context.includeContext then
    .wrap ((engine.table.leadFor? context).filter engine.usable) body
      ((engine.table.trailFor? context).filter engine.usable)
  else body

/-- The fields that a pass can call, over the engine one level down. -/
def fields (below : Host ω) (target : Target) (context : Context) (key : FormatKey)
    (expression : Expr) (name : QuantityName) : Option (Action (State ω) (List Fragment)) :=
  (engine.registry.provider? name).map fun provider =>
    guarded (provider target (engine.invocation below context key expression))

/-- Evaluates the expression of a pass and notes a presented update of an indicator. -/
def present (below : Host ω) (target : Target) (context : Context) (key : FormatKey)
    (expression : Expr) : Action (State ω) Resolution := do
  let settled ← expression.settle (engine.fields below target context key expression)
    (.ofCategory key.category)
  match settled.ending with
  | .unknown name => return ⟨[], settled.bindings, .unknownQuantity name, some key⟩
  | .failed name => return ⟨[], settled.bindings, .providerFault name, some key⟩
  | .complete fragments =>
    if context.isProgressUpdate && fragments.head?.any (!·.isBlank) then
      engine.objects.recordProgress target none none
    return ⟨fragments, settled.bindings, .presented, some key⟩

/-- The key of a pass over `category`, and the context that its fields see. -/
def keyOf (context : Context) (category : Category) : FormatKey :=
  ⟨category, context.mode.getD engine.settings.mode, context.effectiveFormatType⟩

/-- One pass, over the engine one level down. -/
def pass (below : Host ω) (target : Target) (context : Context) : Action (State ω) Resolution :=
  contained do
    unless ← ask fun world => engine.objects.isValid world target do
      return .skipped .invalidTarget none
    let some category ← engine.categoryOf target context | return .skipped .noCategory none
    let key := engine.keyOf context category
    let context := { context with
      role := some category, mode := some key.mode, formatType := some key.formatType }
    match (engine.table.get? key).filter (!·.isEmpty) with
    | none => return .skipped .noExpression (some key)
    | some body =>
      if context.recursing then engine.present below target context key body
      else
        setFallbacks .none
        engine.present below target { context with recursing := true } key
          (engine.outermost context body)

/-- One field that another field calls, over the engine one level down. -/
def compute (below : Host ω) (mode : Mode) (expression : Expr) (name : String) (target : Target)
    (context : Context) : Action (State ω) (List Fragment) := do
  match engine.registry.provider? (.normalize name) with
  | none => throw (.field (.unknownQuantity (.normalize name)))
  | some provider =>
    let category := (← engine.categoryOf target context).getD .unknown
    let context := context.withRole category
    let key : FormatKey := ⟨category, context.mode.getD mode, context.effectiveFormatType⟩
    guarded (provider target (engine.invocation below context key expression))

/-- The engine for resolutions that are nested `depth` levels deep at most. -/
def host : Nat → Host ω
  | 0 => ⟨fun _ _ => throw .tooDeep, fun _ _ _ _ _ => throw .tooDeep⟩
  | depth + 1 =>
    let below := host depth
    ⟨engine.pass below, engine.compute below⟩

/-- Resolutions nested this deeply are taken to have no end. -/
def depthLimit : Nat := 1000

/-- Resolves the presentation of a target. -/
def resolve (target : Target) (context : Context) : Action (State ω) Resolution :=
  (engine.host depthLimit).resolveAfresh target context

end Engine
end Narration
