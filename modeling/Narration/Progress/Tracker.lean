import Narration.Demand
import Narration.ObjectModel
/-! Which updates of progress indicators are presented. Every operation first drops the indicators
that are no longer valid. -/
namespace Narration

structure ProgressSettings where
  /-- The least time between two presented updates of an indicator, in milliseconds. -/
  updateInterval : UInt64
  /-- The value that is always presented. -/
  completeValue : UInt32
  deriving DecidableEq, Repr

def ProgressSettings.standard : ProgressSettings := ⟨10000, 100⟩

/-- The last presented update; without a time if there was none. -/
structure ProgressEntry where
  updatedAt : Option UInt64
  value : Option UInt32
  deriving DecidableEq, Repr, Inhabited

def ProgressEntry.fresh : ProgressEntry := ⟨none, none⟩

/-- The indicators in the order in which they were first seen. -/
structure Tracker where
  entries : List (Target × ProgressEntry)
  settings : ProgressSettings
  deriving DecidableEq, Repr

namespace Tracker

def empty (settings : ProgressSettings) : Tracker := ⟨[], settings⟩

/-- The number of entries dropped, with the entries kept. Where validity cannot be told the sweep
stops and keeps all that follow. -/
def sweep (valid : Target → Query Bool) :
    List (Target × ProgressEntry) → Query Nat × List (Target × ProgressEntry)
  | [] => (.ok 0, [])
  | entry :: rest =>
    match valid entry.1 with
    | .error message => (.error message, entry :: rest)
    | .ok true =>
      let swept := sweep valid rest
      (swept.1, entry :: swept.2)
    | .ok false =>
      let swept := sweep valid rest
      (swept.1.map (· + 1), swept.2)

/-- Drops the invalid indicators and counts them. -/
def prune (valid : Target → Query Bool) : Action Tracker Nat := fun tracker =>
  match sweep valid tracker.entries with
  | (.ok count, entries) => .ok count { tracker with entries }
  | (.error message, entries) => .error (.fault message) { tracker with entries }

def find? (tracker : Tracker) (target : Target) : Option ProgressEntry :=
  (tracker.entries.find? fun entry => entry.1 = target).map Prod.snd

/-- Adds a fresh entry at the end for a target that has none. -/
def enroll (tracker : Tracker) (target : Target) : Tracker :=
  if (tracker.find? target).isSome then tracker
  else { tracker with entries := tracker.entries ++ [(target, .fresh)] }

def write (tracker : Tracker) (target : Target) (value : ProgressEntry) : Tracker :=
  { tracker with
    entries := tracker.entries.map fun entry => if entry.1 = target then (target, value) else entry }

def position (tracker : Tracker) (target : Target) : Nat :=
  tracker.entries.findIdx fun entry => entry.1 = target

/-- The last presented update of `target`. -/
def entry (valid : Target → Query Bool) (target : Target) : Action Tracker ProgressEntry := do
  let _ ← prune valid
  modify (·.enroll target)
  return ((← get).find? target).getD .fresh

/-- Time from `earlier` to `now`; none has passed if the clock went back. -/
def elapsed (now earlier : UInt64) : UInt64 := if now < earlier then 0 else now - earlier

/-- The rule of throttling: the complete value always, an unchanged value never, and any other value
when the interval since the last presented update is over. -/
def allows (settings : ProgressSettings) (last : ProgressEntry) (now : UInt64) (value : UInt32) :
    Bool :=
  if value = settings.completeValue then true
  else if last.value = some value then false
  else
    match last.updatedAt with
    | none => true
    | some updatedAt => settings.updateInterval ≤ elapsed now updatedAt

/-- Whether an update of `target` to `value` should be presented now. -/
def shouldPresent (valid : Target → Query Bool) (now : UInt64) (target : Target) (value : UInt32) :
    Action Tracker Bool := do
  let last ← entry valid target
  return allows (← get).settings last now value

def answer {σ α : Type} (query : Query α) : Action σ α := fun state =>
  match query with
  | .ok value => .ok value state
  | .error message => .error (.fault message) state

/-- Notes a presented update, by default at this moment and with the percentage that `percent`
tells. -/
def record (valid : Target → Query Bool) (percent : Target → Query (Option UInt32)) (now : UInt64)
    (target : Target) (timestamp : Option UInt64) (value : Option UInt32) :
    Action Tracker Unit := do
  let _ ← prune valid
  let value ← match value with
    | some value => pure (some value)
    | none => answer (percent target)
  modify fun tracker => (tracker.enroll target).write target ⟨some (timestamp.getD now), value⟩

/-- The position of `target` among the indicators, counted from one, and their number. -/
def numberAndCount (valid : Target → Query Bool) (target : Target) :
    Action Tracker (Nat × Nat) := do
  let _ ← prune valid
  modify (·.enroll target)
  let tracker ← get
  return (tracker.position target + 1, tracker.entries.length)

/-- Whether the second time is at least as late; no time is earlier than any. -/
def notLater : Option UInt64 → Option UInt64 → Bool
  | none, _ => true
  | some _, none => false
  | some a, some b => a ≤ b

/-- The entry with the latest time; of several the last one. -/
def latest : List (Target × ProgressEntry) → Option (Target × ProgressEntry)
  | [] => none
  | first :: rest =>
    some (rest.foldl (fun best next =>
      if notLater best.2.updatedAt next.2.updatedAt then next else best) first)

def mostRecent (valid : Target → Query Bool) : Action Tracker (Option (Target × ProgressEntry)) := do
  let _ ← prune valid
  return latest (← get).entries

end Tracker
end Narration
