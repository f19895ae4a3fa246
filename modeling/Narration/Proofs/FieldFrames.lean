import Narration.Proofs.Frame
import Narration.Proofs.Registration
import Narration.Proofs.Routine
/-! What a field leaves as it was, over what its steps leave as they were. -/
namespace Narration

variable {ω τ : Type}

/-- Whether a part of the state does not depend on whether `mark` is set. -/
def IgnoresMark (mark : Fallback) (part : State ω → τ) : Prop :=
  ∀ state value, part { state with fallbacks := state.fallbacks.set mark value } = part state

def IgnoresTracker (part : State ω → τ) : Prop :=
  ∀ state tracker, part { state with tracker } = part state

/-- Whether a part of the state is as it was after the tracker is asked something, which can drop
invalid targets and add a fresh one. -/
structure IgnoresAsking (objects : ObjectModel ω) (part : State ω → τ) : Prop where
  shouldPresent : ∀ target value, Keeps part (objects.shouldPresent target value)
  numberAndCount : ∀ target, Keeps part (objects.numberAndCount target)

/-- Whether a part of the state is as it was also after an update is noted. -/
structure IgnoresUpdates (objects : ObjectModel ω) (part : State ω → τ) : Prop
    extends IgnoresAsking objects part where
  recordProgress : ∀ target, Keeps part (objects.recordProgress target none none)

/-- Whether a quantity that is computed by its name leaves `part` as it was. -/
def Host.KeepsOn (host : Host ω) (name : String) (part : State ω → τ) : Prop :=
  ∀ mode expression target context, Keeps part (host.compute mode expression name target context)

variable {part : State ω → τ}

theorem keeps_setFallback {mark : Fallback} (ignores : IgnoresMark mark part) (value : Bool) :
    Keeps part (setFallback mark value) :=
  keeps_modify fun state => ignores state value

theorem IgnoresTracker.asking (ignores : IgnoresTracker part) (objects : ObjectModel ω) :
    IgnoresAsking objects part :=
  ⟨fun _ _ => keeps_track _ ignores, fun _ => keeps_track _ ignores⟩

theorem IgnoresTracker.updates (ignores : IgnoresTracker part) (objects : ObjectModel ω) :
    IgnoresUpdates objects part :=
  ⟨ignores.asking objects, fun _ => keeps_track _ ignores⟩

/-- The steps that leave `part` as it was. -/
def Rights.keeping (part : State ω → τ) (objects : ObjectModel ω) (host : Host ω) : Rights where
  marks mark := IgnoresMark mark part
  quantities name := host.KeepsOn name part
  asksTracker := IgnoresAsking objects part
  presents := ∀ target context, Keeps part (host.resolve target context)

theorem SameRoutine.keeps {objects : ObjectModel ω} {context : Context} {host second : Host ω}
    {α : Type} {left right : Action (State ω) α}
    (routine : SameRoutine (.keeping part objects host) objects context host second left right) :
    Keeps part left := by
  induction routine with
  | pure value => exact keeps_pure value
  | bind before after first rest => exact first.bind rest
  | ask query => exact keeps_ask query
  | getFallbacks => exact keeps_getFallbacks
  | setFallback allowed value => exact keeps_setFallback allowed value
  | shouldPresent allowed target value => exact allowed.shouldPresent target value
  | numberAndCount allowed target => exact allowed.numberAndCount target
  | compute allowed same mode expression target => exact allowed mode expression target _
  | resolve allowed same target => exact allowed target _

/-- A field leaves as it was what each of its steps leaves as it was. -/
theorem Fields.IsRoutine.keeps {field : Provider ω} {invocation : Invocation ω}
    (routine : IsRoutine (.keeping part invocation.objects invocation.host) field) (target : Target) :
    Keeps part (field target invocation) :=
  (routine target invocation invocation.host).keeps

end Narration
