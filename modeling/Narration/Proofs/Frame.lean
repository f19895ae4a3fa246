import Narration.Proofs.Action
import Narration.Proofs.Calls
/-! Parts of the state that a computation leaves as they were, whichever way it ends. -/
namespace Narration

/-- Whether a computation leaves `part` of the state as it was. -/
def Keeps {ε σ τ α : Type} (part : σ → τ) (action : EStateM ε σ α) : Prop :=
  ∀ state, part (finalState (action state)) = part state

section Computations

variable {ε σ τ α β : Type} {part : σ → τ}

theorem keeps_pure (value : α) : Keeps part (pure value : EStateM ε σ α) := fun _ => rfl

theorem keeps_throw (error : ε) : Keeps part (throw error : EStateM ε σ α) := fun _ => rfl

theorem keeps_modify {change : σ → σ} (same : ∀ state, part (change state) = part state) :
    Keeps part (modify change : EStateM ε σ Unit) := same

theorem Keeps.bind {first : EStateM ε σ α} {rest : α → EStateM ε σ β} (kept : Keeps part first)
    (later : ∀ value, Keeps part (rest value)) : Keeps part (first >>= rest) := by
  intro state
  have before := kept state
  simp only [Bind.bind, EStateM.bind]
  cases ran : first state with
  | ok value between =>
      rw [ran] at before
      exact (later value between).trans before
  | error error between =>
      rw [ran] at before
      exact before

theorem keeps_ite {condition : Prop} [Decidable condition] {first second : EStateM ε σ α}
    (left : Keeps part first) (right : Keeps part second) :
    Keeps part (if condition then first else second) := by
  split
  · exact left
  · exact right

/-- A result is found together with the part that was kept. -/
theorem Keeps.of_eq {action : EStateM ε σ α} {state next : σ} {value : α} (kept : Keeps part action)
    (ran : action state = .ok value next) : part next = part state := by
  have same := kept state
  rwa [ran] at same

theorem Keeps.of_error {action : EStateM ε σ α} {state next : σ} {error : ε} (kept : Keeps part action)
    (ran : action state = .error error next) : part next = part state := by
  have same := kept state
  rwa [ran] at same

end Computations

section Engine

variable {ω τ α : Type} {part : State ω → τ}

theorem keeps_ask (query : ω → Query α) : Keeps part (ask query) := by
  intro state
  rw [ask]
  cases query state.world <;> rfl

theorem keeps_getFallbacks : Keeps part getFallbacks := fun _ => rfl

theorem keeps_track (operation : UInt64 → ω → Action Tracker α)
    (same : ∀ state tracker, part { state with tracker } = part state) :
    Keeps part (track operation) := by
  intro state
  rw [track]
  cases operation state.clock state.world state.tracker with
  | ok value tracker => exact same state tracker
  | error halt tracker => exact same state tracker

theorem keeps_answer {σ : Type} {part : σ → τ} (query : Query α) :
    Keeps part (Tracker.answer query : Action σ α) := by
  intro state
  cases query <;> rfl

theorem Keeps.guarded {action : Action (State ω) α} (kept : Keeps part action) :
    Keeps part (guarded action) := by
  intro state
  rw [finalState_guarded]
  exact kept state

theorem Keeps.contained {action : Action (State ω) Resolution} (kept : Keeps part action) :
    Keeps part (contained action) := by
  intro state
  rw [finalState_contained]
  exact kept state

end Engine

section Calls

variable {σ τ : Type} {part : σ → τ} {providers : Providers σ}

/-- What every computation preserves, each call finds. -/
theorem Follow.preserves (holds : σ → Prop)
    (step : ∀ name compute, providers name = some compute →
      ∀ state, holds state → holds (finalState (compute state)))
    {state : σ} {calls : List (Call σ)} (follow : Follow providers state calls)
    (before : holds state) : ∀ call ∈ calls, holds call.found := by
  induction calls generalizing state with
  | nil => exact fun _ member => nomatch member
  | cons first rest ih =>
      obtain ⟨rfl, ⟨compute, provided, ran⟩, goes⟩ := follow
      intro call member
      cases member with
      | head => exact before
      | tail _ inRest =>
          cases result : first.result with
          | ok value next =>
              rw [result] at goes ran
              have after := step first.name compute provided first.found before
              rw [ran] at after
              exact ih goes after call inRest
          | error halt next =>
              rw [result] at goes
              subst goes
              cases inRest

/-- What every provider keeps, each call finds as it was at first. -/
theorem Follow.keeps (kept : ∀ name compute, providers name = some compute → Keeps part compute)
    {state : σ} {calls : List (Call σ)} (follow : Follow providers state calls) :
    ∀ call ∈ calls, part call.found = part state :=
  follow.preserves (part · = part state)
    (fun name compute provided current same => (kept name compute provided current).trans same) rfl

/-- What every computation preserves, a whole evaluation preserves. -/
theorem Expr.settle_preserves (holds : σ → Prop)
    (step : ∀ name compute, providers name = some compute →
      ∀ state, holds state → holds (finalState (compute state)))
    (expr : Expr) (bindings : Bindings) (state : σ) (before : holds state) :
    holds (finalState (expr.settle providers bindings state)) := by
  fun_induction Expr.settle providers expr bindings state with
  | case1 bindings state fragments done => exact before
  | case2 bindings state name needed unknown => exact before
  | case3 bindings state name needed compute provided value next computed ih =>
      have after := step name compute provided state before
      rw [computed] at after
      exact ih after
  | case4 bindings state name needed compute provided error next failed =>
      have after := step name compute provided state before
      rwa [failed] at after
  | case5 bindings state name needed compute provided halt next serious halted =>
      have after := step name compute provided state before
      rwa [halted] at after

/-- A quantity that is bound at the end was bound before, or its provider computed the value in a state
that has what every computation preserves. -/
theorem Expr.bound_or_computed (holds : σ → Prop)
    (step : ∀ name compute, providers name = some compute →
      ∀ state, holds state → holds (finalState (compute state)))
    {expr : Expr} {bindings : Bindings} {state next : σ} {settled : Settled} {name : QuantityName}
    {value : List Fragment} (before : holds state)
    (ran : expr.settle providers bindings state = .ok settled next)
    (bound : settled.bindings.value? name = some value) :
    bindings.value? name = some value ∨ ∃ compute found after, providers name = some compute ∧
      holds found ∧ compute found = .ok value after := by
  fun_induction Expr.settle providers expr bindings state with
  | case1 bindings state fragments done =>
      cases ran
      exact .inl bound
  | case2 bindings state needed stops unknown =>
      cases ran
      exact .inl bound
  | case3 bindings state needed stops compute provided computed after result ih =>
      have later := step needed compute provided state before
      rw [result] at later
      rcases ih later ran with known | found
      · rw [Bindings.extend, Bindings.bind_of_lookup_eq_none (evaluate_needs stops).2,
          Option.getD_some, Bindings.value?_append] at known
        rcases Option.or_eq_some_iff.mp known with old | ⟨-, new⟩
        · exact .inl old
        · split at new
          · rename_i same
            cases new
            exact .inr ⟨compute, state, after, by rw [← same]; exact provided, before, result⟩
          · cases new
      · exact .inr found
  | case4 bindings state needed stops compute provided error after failed =>
      cases ran
      exact .inl bound
  | case5 bindings state needed stops compute provided halt after serious halted => cases ran

/-- What every provider keeps, a whole evaluation keeps. -/
theorem Expr.keeps_settle
    (kept : ∀ name compute, providers name = some compute → Keeps part compute) (expr : Expr)
    (bindings : Bindings) : Keeps part (expr.settle providers bindings) := fun state =>
  expr.settle_preserves (part · = part state)
    (fun name compute provided current same => (kept name compute provided current).trans same)
    bindings state rfl

/-- What holds of no calls at first and is preserved by each call, holds at the end of all calls. -/
theorem Expr.calls_preserve (holds : List (Call σ) → σ → Prop)
    (step : ∀ name compute, providers name = some compute → ∀ earlier state, holds earlier state →
      holds (earlier ++ [⟨name, state, compute state⟩]) (finalState (compute state)))
    (expr : Expr) (bindings : Bindings) {state : σ} (before : holds [] state) :
    holds (expr.calls providers bindings state) (finalState (expr.settle providers bindings state)) := by
  have logged : ∀ name compute, providers.logged name = some compute → ∀ memory : σ × List (Call σ),
      holds memory.2 memory.1 → holds (finalState (compute memory)).2 (finalState (compute memory)).1 := by
    intro name compute provided memory held
    obtain ⟨plain, found, rfl⟩ := Option.map_eq_some_iff.mp provided
    rw [logCall, finalState_withLog]
    exact step name plain found memory.2 memory.1 held
  have all := expr.settle_preserves (fun memory : σ × List (Call σ) => holds memory.2 memory.1) logged
    bindings (state, []) before
  obtain ⟨calls, -, same⟩ := expr.settle_logged providers bindings state []
  rw [Expr.calls]
  rw [same, finalState_withLog] at all ⊢
  exact all

end Calls

end Narration
