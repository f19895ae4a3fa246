import Narration.Context
import Narration.Progress.Tracker
/-! What resolutions read and change. -/
namespace Narration

structure State (ω : Type) where
  /-- The fallbacks of the pass that is running. -/
  fallbacks : Fallbacks
  /-- The fallbacks that the last top-level pass left. -/
  saved : Fallbacks
  tracker : Tracker
  /-- The reading of the clock in milliseconds. -/
  clock : UInt64
  world : ω

namespace State

variable {ω α : Type}

def start (settings : ProgressSettings) (clock : UInt64) (world : ω) : State ω :=
  ⟨.none, .none, .empty settings, clock, world⟩

end State

section Actions

variable {ω α : Type}

/-- Puts a query to the world. -/
def ask (query : ω → Query α) : Action (State ω) α := fun state =>
  match query state.world with
  | .ok value => .ok value state
  | .error message => .error (.fault message) state

def getFallbacks : Action (State ω) Fallbacks := return (← get).fallbacks

def setFallbacks (fallbacks : Fallbacks) : Action (State ω) Unit :=
  modify fun state => { state with fallbacks }

def setFallback (fallback : Fallback) (value : Bool) : Action (State ω) Unit :=
  modify fun state => { state with fallbacks := state.fallbacks.set fallback value }

/-- Runs an operation of the tracker, which may depend on the clock and the world. -/
def track (operation : UInt64 → ω → Action Tracker α) : Action (State ω) α := fun state =>
  match operation state.clock state.world state.tracker with
  | .ok value tracker => .ok value { state with tracker }
  | .error halt tracker => .error halt { state with tracker }

end Actions

namespace ObjectModel

variable {ω : Type}

def shouldPresent (objects : ObjectModel ω) (target : Target) (value : UInt32) :
    Action (State ω) Bool :=
  track fun now world => Tracker.shouldPresent (objects.isValid world) now target value

def recordProgress (objects : ObjectModel ω) (target : Target) (value : Option UInt32)
    (timestamp : Option UInt64) : Action (State ω) Unit :=
  track fun now world =>
    Tracker.record (objects.isValid world) (objects.percent world) now target timestamp value

def numberAndCount (objects : ObjectModel ω) (target : Target) : Action (State ω) (Nat × Nat) :=
  track fun _ world => Tracker.numberAndCount (objects.isValid world) target

def mostRecent (objects : ObjectModel ω) : Action (State ω) (Option (Target × ProgressEntry)) :=
  track fun _ world => Tracker.mostRecent (objects.isValid world)

end ObjectModel
end Narration
