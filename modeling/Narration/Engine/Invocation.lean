import Narration.Bindings
import Narration.Engine.State
/-! What a field sees while it runs. -/
namespace Narration

/-- How a pass ended. -/
inductive Outcome where
  /-- The expression was evaluated completely. -/
  | presented
  | invalidTarget
  | noCategory
  /-- There is no expression for the key, or an empty one. -/
  | noExpression
  | unknownQuantity (name : QuantityName)
  | providerFault (name : QuantityName)
  /-- A query broke down outside any field. -/
  | fault (message : String)
  deriving DecidableEq, Repr

def Outcome.display : Outcome → String
  | .presented => "Presented"
  | .invalidTarget => "InvalidTarget"
  | .noCategory => "NoCategory"
  | .noExpression => "NoExpression"
  | .unknownQuantity name => "UnknownQuantity(" ++ name.text ++ ")"
  | .providerFault name => "ProviderFault(" ++ name.text ++ ")"
  | .fault message => "Fault(" ++ message ++ ")"

/-- The result of a pass. -/
structure Resolution where
  fragments : List Fragment
  bindings : Bindings
  outcome : Outcome
  key : Option FormatKey
  deriving DecidableEq, Repr

/-- A pass that ended before it had anything to evaluate. -/
def Resolution.skipped (outcome : Outcome) (key : Option FormatKey) : Resolution :=
  ⟨[], .empty, outcome, key⟩

/-- What fields and callers can ask of the engine. -/
structure Host (ω : Type) where
  /-- Presents a target; the pass goes on with the fallbacks of the caller. -/
  resolve : Target → Context → Action (State ω) Resolution
  /-- Computes a quantity by its name for a pass in the given mode over the given expression. -/
  compute : Mode → Expr → String → Target → Context → Action (State ω) (List Fragment)

/-- Presents a target as if from outside: with the fallbacks of the last top-level pass instead of
those of a pass that is running. -/
def Host.resolveAfresh {ω : Type} (host : Host ω) (target : Target) (context : Context) :
    Action (State ω) Resolution := do
  let running ← getFallbacks
  setFallbacks (← get).saved
  let resolution ← host.resolve target context
  modify fun state => { state with saved := state.fallbacks, fallbacks := running }
  return resolution

structure Invocation (ω : Type) where
  objects : ObjectModel ω
  host : Host ω
  context : Context
  key : FormatKey
  /-- The expression of the pass, between its lead and trail. -/
  expression : Expr
  /-- The expression that is stored for the key. -/
  formatExpression : Option Expr

/-- What computes a quantity of a target. -/
abbrev Provider (ω : Type) := Target → Invocation ω → Action (State ω) (List Fragment)

namespace Invocation

variable {ω : Type}

def category (invocation : Invocation ω) : Category := invocation.key.category

/-- Computes a quantity under an explicit context. The result is not bound. -/
def callWith (invocation : Invocation ω) (name : String) (target : Target) (context : Context) :
    Action (State ω) (List Fragment) :=
  invocation.host.compute invocation.key.mode invocation.expression name target context

/-- Computes a quantity under the context of this invocation. -/
def call (invocation : Invocation ω) (name : String) (target : Target) :
    Action (State ω) (List Fragment) :=
  invocation.callWith name target invocation.context

/-- Computes a quantity of another object, under that object's own category. -/
def callOn (invocation : Invocation ω) (name : String) (other : Target) :
    Action (State ω) (List Fragment) :=
  invocation.callWith name other invocation.context.withoutRole

end Invocation
end Narration
