import Narration.Proofs.StandardFields
import Narration.Proofs.Sweep
/-! Outermost passes start with no mark set. The main result: what the last top-level pass left for its
marks has no influence on the next one. -/
namespace Narration

/-- The result of a computation, with the state that it leaves changed. -/
def mapState {ε σ τ α : Type} (change : σ → τ) : EStateM.Result ε σ α → EStateM.Result ε τ α
  | .ok value state => .ok value (change state)
  | .error error state => .error error (change state)

/-- Whether a computation does the same before and after a change, and leaves it alone. -/
def Disregards {ε σ α : Type} (change : σ → σ) (action : EStateM ε σ α) : Prop :=
  ∀ state, action (change state) = mapState change (action state)

section Computations

variable {ε σ α β : Type} {change : σ → σ}

theorem disregards_pure (value : α) : Disregards change (pure value : EStateM ε σ α) := fun _ => rfl

theorem disregards_throw (error : ε) : Disregards change (throw error : EStateM ε σ α) := fun _ => rfl

theorem Disregards.bind {first : EStateM ε σ α} {rest : α → EStateM ε σ β}
    (same : Disregards change first) (later : ∀ value, Disregards change (rest value)) :
    Disregards change (first >>= rest) := by
  intro state
  have before := same state
  cases ran : first state with
  | ok value between =>
      rw [ran] at before
      rw [bind_of_ok before, bind_of_ok ran]
      exact later value between
  | error error between =>
      rw [ran] at before
      rw [bind_of_error before, bind_of_error ran]
      rfl

theorem disregards_ite {condition : Prop} [Decidable condition] {first second : EStateM ε σ α}
    (left : Disregards change first) (right : Disregards change second) :
    Disregards change (if condition then first else second) := by
  split
  · exact left
  · exact right

theorem Disregards.guarded {action : Action σ α} (same : Disregards change action) :
    Disregards change (guarded action) := by
  intro state
  simp only [Narration.guarded, same state]
  cases action state with
  | ok value next => rfl
  | error halt next => cases halt <;> rfl

theorem Disregards.contained {action : Action σ Resolution} (same : Disregards change action) :
    Disregards change (contained action) := by
  intro state
  simp only [Narration.contained, same state]
  cases action state with
  | ok resolution next => rfl
  | error halt next => cases halt <;> rfl

theorem Expr.disregards_settle {providers : Providers σ}
    (each : ∀ name compute, providers name = some compute → Disregards change compute) (expr : Expr)
    (bindings : Bindings) : Disregards change (expr.settle providers bindings) := by
  intro state
  fun_induction Expr.settle providers expr bindings state with
  | case1 bindings state fragments done =>
      rw [settle_of_complete done]
      rfl
  | case2 bindings state name needed unknown =>
      rw [settle_of_unknown needed unknown]
      rfl
  | case3 bindings state name needed compute provided value next computed ih =>
      have again := each name compute provided state
      rw [computed] at again
      rw [settle_of_computed needed provided again, ih]
  | case4 bindings state name needed compute provided error next failed =>
      have again := each name compute provided state
      rw [failed] at again
      rw [settle_of_failed needed provided again]
      rfl
  | case5 bindings state name needed compute provided halt next serious halted =>
      have again := each name compute provided state
      rw [halted] at again
      rw [settle_of_halted needed provided serious again]
      rfl

end Computations

variable {ω : Type}

/-- The state after a last top-level pass that left `saved`. -/
def State.leaving (saved : Fallbacks) (state : State ω) : State ω := { state with saved }

/-- Whether a computation neither looks at nor changes what the last top-level pass left. -/
def IgnoresSaved {α : Type} (action : Action (State ω) α) : Prop :=
  ∀ saved, Disregards (State.leaving saved) action

theorem ignoresSaved_ask {α : Type} (query : ω → Query α) : IgnoresSaved (ask query) := by
  intro saved state
  simp only [ask, State.leaving]
  cases query state.world <;> rfl

theorem ignoresSaved_track {α : Type} (operation : UInt64 → ω → Action Tracker α) :
    IgnoresSaved (track operation) := by
  intro saved state
  simp only [track, State.leaving]
  cases operation state.clock state.world state.tracker <;> rfl

/-- Whether passes and computed quantities neither look at nor change what the last top-level pass
left. -/
structure Host.IgnoresSaved (host : Host ω) : Prop where
  resolve : ∀ target context, Narration.IgnoresSaved (host.resolve target context)
  compute : ∀ mode expression name target context,
    Narration.IgnoresSaved (host.compute mode expression name target context)

/-- Whether a field touches the marks only through its invocation: it neither looks at nor changes what
the last top-level pass left, unless the engine of its invocation does. -/
def KeepsToInvocation (field : Provider ω) : Prop :=
  ∀ target (invocation : Invocation ω), invocation.host.IgnoresSaved →
    IgnoresSaved (field target invocation)

theorem SameRoutine.ignoresSaved {rights : Rights} {objects : ObjectModel ω} {context : Context}
    {host second : Host ω} {α : Type} {left right : Action (State ω) α} (ignores : host.IgnoresSaved)
    (routine : SameRoutine rights objects context host second left right) : IgnoresSaved left := by
  intro saved
  induction routine with
  | pure value => exact disregards_pure value
  | bind before after first rest => exact first.bind rest
  | ask query => exact ignoresSaved_ask query saved
  | getFallbacks => exact fun _ => rfl
  | setFallback allowed value => exact fun _ => rfl
  | shouldPresent allowed target value => exact ignoresSaved_track _ saved
  | numberAndCount allowed target => exact ignoresSaved_track _ saved
  | compute allowed same mode expression target =>
      exact ignores.compute mode expression _ target _ saved
  | resolve allowed same target => exact ignores.resolve target _ saved

theorem Fields.IsRoutine.keepsToInvocation {rights : Rights} {field : Provider ω}
    (routine : IsRoutine rights field) : KeepsToInvocation field := by
  intro target invocation ignores
  exact (routine target invocation invocation.host).ignoresSaved ignores

namespace Engine

variable (engine : Engine ω)

/-- Whether all fields touch the marks only through their invocations. -/
def KeepsToInvocations : Prop :=
  ∀ name field, engine.registry.provider? name = some field → KeepsToInvocation field

variable {engine}

theorem IsStandard.keepsToInvocations (standard : engine.IsStandard) : engine.KeepsToInvocations := by
  intro name field provided
  exact (Fields.isRoutine_of_mem (standard.provider?_eq_some.mp provided)).keepsToInvocation

theorem ignoresSaved_categoryOf (target : Target) (context : Context) :
    IgnoresSaved (engine.categoryOf target context) := by
  intro saved
  unfold categoryOf
  split
  · exact disregards_pure _
  · exact ignoresSaved_ask _ saved

section Levels

variable (keeps : engine.KeepsToInvocations) {below : Host ω} (ignores : below.IgnoresSaved)
include keeps ignores

theorem KeepsToInvocations.ignoresSaved_present (target : Target) (context : Context) (key : FormatKey)
    (expression : Expr) : IgnoresSaved (engine.present below target context key expression) := by
  intro saved
  apply Disregards.bind
  · apply Expr.disregards_settle
    intro name compute found
    obtain ⟨field, provided, rfl⟩ := fields_eq_some found
    exact (keeps name field provided target _ ignores saved).guarded
  · intro settled
    cases settled.ending with
    | unknown name => exact disregards_pure _
    | failed name => exact disregards_pure _
    | complete fragments =>
        apply disregards_ite
        · exact (ignoresSaved_track _ saved).bind fun _ => disregards_pure _
        · exact disregards_pure _

theorem KeepsToInvocations.ignoresSaved_pass (target : Target) (context : Context) :
    IgnoresSaved (engine.pass below target context) := by
  intro saved state
  cases opens : engine.opening? target context state with
  | none =>
      obtain ⟨outcome, key, -, skipped⟩ := pass_of_closed below opens
      rw [skipped state rfl, skipped (State.leaving saved state) rfl]
      rfl
  | some opening =>
      obtain ⟨key, body⟩ := opening
      have again : engine.opening? target context (State.leaving saved state) = some (key, body) :=
        opening_of_world (by rfl) opens
      have begins : started context (State.leaving saved state) =
          State.leaving saved (started context state) := by
        unfold started
        split
        · rfl
        · rfl
      rw [pass_of_opening opens, pass_of_opening again, begins]
      exact (keeps.ignoresSaved_present ignores _ _ _ _ saved).contained _

theorem KeepsToInvocations.ignoresSaved_compute (mode : Mode) (expression : Expr) (name : String)
    (target : Target) (context : Context) :
    IgnoresSaved (engine.compute below mode expression name target context) := by
  intro saved
  unfold compute
  split
  · exact disregards_throw _
  · rename_i field provided
    apply (ignoresSaved_categoryOf target context saved).bind
    intro category
    exact (keeps _ field provided target _ ignores saved).guarded

end Levels

/-- An outermost pass that has something to evaluate forgets which marks were set. -/
theorem pass_of_fallbacks {below : Host ω} {target : Target} {context : Context} {state : State ω}
    {key : FormatKey} {body : Expr} (outermost : context.recursing = false)
    (opens : engine.opening? target context state = some (key, body)) (fallbacks : Fallbacks) :
    engine.pass below target context { state with fallbacks } = engine.pass below target context state := by
  have again : engine.opening? target context { state with fallbacks } = some (key, body) :=
    opening_of_world (by rfl) opens
  have begins : started context { state with fallbacks } = started context state := by
    simp only [started, outermost, Bool.false_eq_true, if_false]
  rw [pass_of_opening opens, pass_of_opening again, begins]

/-- No pass at any depth looks at what the last top-level pass left. -/
theorem KeepsToInvocations.ignoresSaved_host (keeps : engine.KeepsToInvocations) (depth : Nat) :
    (engine.host depth).IgnoresSaved := by
  induction depth with
  | zero => exact ⟨fun _ _ _ => disregards_throw _, fun _ _ _ _ _ _ => disregards_throw _⟩
  | succ below ih => exact ⟨keeps.ignoresSaved_pass ih, keeps.ignoresSaved_compute ih⟩

/-- What the last top-level pass left has no influence on the next one that is outermost: it has the same
resolution and leaves the same state. Only where it ends before it has anything to evaluate, the marks
stay as they were left. This is so for fields that touch the marks only through their invocations, as
the standard ones do. -/
theorem stale_fallbacks_unread (engine : Engine ω) :
    (engine.IsStandard → engine.KeepsToInvocations) ∧
      (engine.KeepsToInvocations → ∀ (depth : Nat) (target : Target) (context : Context)
        (state next : State ω) (resolution : Resolution) (stale : Fallbacks),
        context.recursing = false →
        (engine.host depth).resolveAfresh target context state = .ok resolution next →
        (engine.host depth).resolveAfresh target context { state with saved := stale } =
          .ok resolution { next with
            saved := if (engine.opening? target context state).isSome then next.saved else stale }) := by
  refine ⟨IsStandard.keepsToInvocations, ?_⟩
  intro keeps depth target context state next resolution stale outermost ran
  obtain ⟨after, passed, rfl⟩ := Host.resolveAfresh_eq_ok.mp ran
  rw [Host.resolveAfresh_eq_ok]
  cases depth with
  | zero => cases passed
  | succ below =>
      cases opens : engine.opening? target context state with
      | none =>
          obtain ⟨outcome, key, -, skipped⟩ := pass_of_closed (engine.host below) opens
          cases (skipped { state with fallbacks := state.saved } rfl).symm.trans passed
          exact ⟨_, skipped { state with saved := stale, fallbacks := stale } rfl, rfl⟩
      | some opening =>
          obtain ⟨key, body⟩ := opening
          have forgets (fallbacks : Fallbacks) :
              (engine.host (below + 1)).resolve target context { state with fallbacks } =
                (engine.host (below + 1)).resolve target context state :=
            pass_of_fallbacks outermost opens fallbacks
          have ignores := (keeps.ignoresSaved_host (below + 1)).resolve target context stale
          refine ⟨State.leaving stale after, ?_, rfl⟩
          calc
            (engine.host (below + 1)).resolve target context
                  (State.leaving stale { state with fallbacks := stale }) =
                mapState (State.leaving stale) ((engine.host (below + 1)).resolve target context
                  { state with fallbacks := stale }) := ignores _
            _ = mapState (State.leaving stale) ((engine.host (below + 1)).resolve target context
                  { state with fallbacks := state.saved }) := by
              rw [forgets stale, forgets state.saved]
            _ = .ok resolution (State.leaving stale after) := by
              rw [passed]
              rfl

section Example

def saveKey : FormatKey := ⟨⟨"push button"⟩, .standard, .unfocused⟩

/-- A button without a name that is presented with its description. -/
def saveButton : Engine Unit where
  objects :=
    { isValid := fun _ _ => .ok true
      category := fun _ _ => .ok (some saveKey.category)
      description := fun _ _ => .ok (some "Saves the file") }
  table := Table.empty.insert saveKey (.reference "description")
  registry := (Fields.registry : Except RegistryError (Registry (Provider Unit))).toOption.getD .empty
  settings := .standard

theorem isStandard_saveButton : saveButton.IsStandard :=
  isStandard_of_registry (by rw [saveButton])

theorem resolve_saveButton : ∃ resolution next,
    (saveButton.host 1).resolve 1 .standard (.start .standard 0 ()) = .ok resolution next ∧
      resolution.fragments = [.text "Saves the file"] := by
  have one : (saveButton.host 1).resolve = saveButton.pass (saveButton.host 0) := rfl
  have checked : okWith (fun resolution _ => decide (resolution.fragments = [.text "Saves the file"]))
      ((saveButton.host 1).resolve 1 .standard (.start .standard 0 ())) = true := by
    simp only [one, pass, present_eq, Expr.settle_eq_settleOnce, isStandard_saveButton.fields_eq,
      Fields.quantities_eq]
    decide +kernel
  obtain ⟨resolution, next, ran, told⟩ := exists_ok_of_okWith checked
  exact ⟨resolution, next, ran, of_decide_eq_true told⟩

/-- Marks for all fallbacks do not keep the description from being told. -/
theorem stale_fallbacks_unread_saveButton : ∃ resolution next,
    (saveButton.host 1).resolveAfresh 1 .standard
        { State.start .standard 0 () with saved := ⟨true, true, true⟩ } = .ok resolution next ∧
      resolution.fragments = [.text "Saves the file"] := by
  obtain ⟨resolution, after, passed, told⟩ := resolve_saveButton
  have ran : (saveButton.host 1).resolveAfresh 1 .standard (.start .standard 0 ()) =
      .ok resolution { after with saved := after.fallbacks, fallbacks := .none } :=
    Host.resolveAfresh_eq_ok.mpr ⟨after, passed, rfl⟩
  obtain ⟨standard, unread⟩ := stale_fallbacks_unread saveButton
  have again := unread (standard isStandard_saveButton) 1 1 .standard (.start .standard 0 ()) _ _
    ⟨true, true, true⟩ rfl ran
  exact ⟨resolution, _, again, told⟩

end Example

end Engine
end Narration
