import Narration.Proofs.Evaluation
import Narration.Proofs.Pass
/-! A pass restarts the evaluation of its expression after every quantity that it computes. The main
result: this has the same end, bindings and state, and makes the same calls, as one sweep from left
to right that computes each quantity on the spot. -/
namespace Narration

variable {σ α κ : Type}

/-- What ends a sweep early. -/
inductive Stop where
  | unknown (name : QuantityName)
  | failed (name : QuantityName)
  | halted (halt : Halt)
  deriving DecidableEq, Repr

/-- A computation on the quantities bound so far and the state of their providers. -/
abbrev Sweep (σ α : Type) := EStateM Stop (Bindings × σ) α

/-- The bound value of a quantity, or else the value that its provider computes on the spot, which is
bound from then on. -/
def remember (providers : Providers σ) (name : QuantityName) : Sweep σ (List Fragment) := fun memory =>
  match memory.1.lookup name with
  | some value => .ok value memory
  | none =>
    match providers name with
    | none => .error (.unknown name) memory
    | some compute =>
      match compute memory.2 with
      | .ok value next => .ok value (memory.1.extend name value, next)
      | .error (.field _) next => .error (.failed name) (memory.1, next)
      | .error halt next => .error (.halted halt) (memory.1, next)

/-- Goes through the expression once, from left to right, and never goes back. -/
def Expr.sweep (providers : Providers σ) : Expr → Sweep σ (List Fragment)
  | .literal fragments => pure fragments
  | .ref name => remember providers name
  | .concat left right =>
    left.sweep providers >>= fun first =>
      right.sweep providers >>= fun second => pure (first ++ second)
  | .or left right =>
    left.sweep providers >>= fun first =>
      if first.isEmpty then right.sweep providers else pure first
  | .and left right =>
    left.sweep providers >>= fun first =>
      if first.isEmpty then pure [] else right.sweep providers

/-- The end of a sweep in the terms of a pass. -/
def settledBy : EStateM.Result Stop (Bindings × σ) (List Fragment) → EStateM.Result Halt σ Settled
  | .ok fragments memory => .ok ⟨memory.1, .complete fragments⟩ memory.2
  | .error (.unknown name) memory => .ok ⟨memory.1, .unknown name⟩ memory.2
  | .error (.failed name) memory => .ok ⟨memory.1, .failed name⟩ memory.2
  | .error (.halted halt) memory => .error halt memory.2

/-- Settles an expression by one sweep. -/
def Expr.settleOnce (providers : Providers σ) (expr : Expr) (bindings : Bindings) :
    Action σ Settled := fun state =>
  settledBy (expr.sweep providers (bindings, state))

namespace Bindings

theorem lookup_within_extend {bindings : Bindings} {name : QuantityName}
    (unbound : bindings.lookup name = none) (value : List Fragment) :
    Scope.Within bindings.lookup (bindings.extend name value).lookup := by
  intro other known bound
  rw [lookup_extend unbound]
  by_cases same : other = name
  · subst same
    rw [unbound] at bound
    cases bound
  · rwa [if_neg same]

end Bindings

/-- Remembering a quantity forgets no other. -/
theorem remember_within {providers : Providers σ} {name : QuantityName} {memory next : Bindings × σ}
    {value : List Fragment} (remembered : remember providers name memory = .ok value next) :
    Scope.Within memory.1.lookup next.1.lookup := by
  unfold remember at remembered
  split at remembered
  · cases remembered
    exact fun _ _ bound => bound
  · rename_i unbound
    split at remembered
    · cases remembered
    · split at remembered <;> cases remembered
      exact Bindings.lookup_within_extend unbound _

/-- A quantity that was remembered is bound: to remember it again computes nothing. -/
theorem remember_again {providers : Providers σ} {name : QuantityName} {memory next : Bindings × σ}
    {value : List Fragment} (remembered : remember providers name memory = .ok value next) :
    remember providers name next = .ok value next := by
  have bound : next.1.lookup name = some value := by
    unfold remember at remembered
    split at remembered
    · rename_i found
      cases remembered
      exact found
    · rename_i unbound
      split at remembered
      · cases remembered
      · split at remembered <;> cases remembered
        rw [Bindings.lookup_extend unbound, if_pos rfl]
  simp only [remember, bound]

/-- The invariant that carries a sweep over a restart: where the evaluation is complete the sweep has
nothing to compute, and where it needs a quantity the sweep does the same as remembering this quantity
and then sweeping from the start. -/
structure Tracks (providers : Providers σ) (action : Sweep σ (List Fragment))
    (evaluation : Scope → Evaluation) : Prop where
  complete {memory : Bindings × σ} {fragments : List Fragment} :
    evaluation memory.1.lookup = .complete fragments → action memory = .ok fragments memory
  restart {memory : Bindings × σ} {name : QuantityName} :
    evaluation memory.1.lookup = .needs name →
      action memory = (remember providers name >>= fun _ => action) memory

theorem tracks_pure (providers : Providers σ) (fragments : List Fragment) :
    Tracks providers (pure fragments) fun _ => .complete fragments where
  complete done := by
    cases done
    rfl
  restart needed := by cases needed

/-- A sweep that goes on behind a part of the expression. -/
theorem Tracks.bind {providers : Providers σ} {part : Expr} {first : Sweep σ (List Fragment)}
    {rest : List Fragment → Sweep σ (List Fragment)} {next : List Fragment → Scope → Evaluation}
    (tracked : Tracks providers first (part.evaluate ·))
    (further : ∀ said, Tracks providers (rest said) (next said)) :
    Tracks providers (first >>= rest) fun scope =>
      (part.evaluate scope).andThen fun said => next said scope where
  complete done := by
    obtain ⟨said, atFirst, atRest⟩ := Evaluation.andThen_eq_complete.mp done
    rw [bind_of_ok (tracked.complete atFirst)]
    exact (further said).complete atRest
  restart {memory name} needed := by
    rcases Evaluation.andThen_eq_needs.mp needed with atFirst | ⟨said, atFirst, atRest⟩
    · have again := tracked.restart atFirst
      cases remembered : remember providers name memory with
      | error stop after =>
          rw [bind_of_error remembered] at again
          rw [bind_of_error remembered, bind_of_error again]
      | ok value after =>
          rw [bind_of_ok remembered] at again ⊢
          simp only [Bind.bind, EStateM.bind, again]
    · rw [bind_of_ok (tracked.complete atFirst), (further said).restart atRest]
      cases remembered : remember providers name memory with
      | error stop after => rw [bind_of_error remembered, bind_of_error remembered]
      | ok value after =>
          -- The part that was complete before is complete after the quantity is bound.
          have still := Expr.evaluate_complete_of_within (remember_within remembered) atFirst
          rw [bind_of_ok remembered, bind_of_ok remembered, bind_of_ok (tracked.complete still)]

theorem tracks_remember (providers : Providers σ) (name : QuantityName) :
    Tracks providers (remember providers name) fun scope => (Expr.ref name).evaluate scope where
  complete {memory fragments} done := by
    simp only [Expr.evaluate] at done
    cases known : memory.1.lookup name with
    | none => simp [known] at done
    | some value =>
        simp only [known, Evaluation.complete.injEq] at done
        simp only [remember, known, done]
  restart {memory other} needed := by
    simp only [Expr.evaluate] at needed
    cases known : memory.1.lookup name with
    | some value => simp [known] at needed
    | none =>
        simp only [known, Evaluation.needs.injEq] at needed
        subst needed
        cases remembered : remember providers name memory with
        | error stop after => rw [bind_of_error remembered]
        | ok value after =>
            rw [bind_of_ok remembered]
            exact (remember_again remembered).symm

theorem Expr.tracks_sweep (providers : Providers σ) (expr : Expr) :
    Tracks providers (expr.sweep providers) (expr.evaluate ·) := by
  induction expr with
  | literal fragments => exact tracks_pure providers fragments
  | ref name => exact tracks_remember providers name
  | concat left right ihl ihr =>
      exact ihl.bind fun first => ihr.bind fun second => tracks_pure providers (first ++ second)
  | or left right ihl ihr =>
      refine ihl.bind fun first => ?_
      by_cases silent : first.isEmpty
      · simpa only [if_pos silent] using ihr
      · simpa only [if_neg silent] using tracks_pure providers first
  | and left right ihl ihr =>
      refine ihl.bind fun first => ?_
      by_cases silent : first.isEmpty
      · simpa only [if_pos silent] using tracks_pure providers []
      · simpa only [if_neg silent] using ihr

/-- The restarts of a pass and a single sweep come to the same. -/
theorem Expr.settle_eq_settleOnce (providers : Providers σ) (expr : Expr) (bindings : Bindings) :
    expr.settle providers bindings = expr.settleOnce providers bindings := by
  funext state
  have tracked := expr.tracks_sweep providers
  fun_induction Expr.settle providers expr bindings state with
  | case1 bindings state fragments done =>
      rw [settleOnce, tracked.complete done]
      rfl
  | case2 bindings state name needed unknown =>
      have unbound := (evaluate_needs needed).2
      have stops : remember providers name (bindings, state) = .error (.unknown name) (bindings, state) := by
        simp only [remember, unbound, unknown]
      rw [settleOnce, tracked.restart needed, bind_of_error stops]
      rfl
  | case3 bindings state name needed compute provided value next computed ih =>
      have unbound := (evaluate_needs needed).2
      have goes : remember providers name (bindings, state) =
          .ok value (bindings.extend name value, next) := by
        simp only [remember, unbound, provided, computed]
      have again : expr.sweep providers (bindings, state) = _ := tracked.restart needed
      rw [ih, settleOnce, settleOnce, again, bind_of_ok goes]
  | case4 bindings state name needed compute provided error next computed =>
      have unbound := (evaluate_needs needed).2
      have stops : remember providers name (bindings, state) = .error (.failed name) (bindings, next) := by
        simp only [remember, unbound, provided, computed]
      rw [settleOnce, tracked.restart needed, bind_of_error stops]
      rfl
  | case5 bindings state name needed compute provided halt next notField computed =>
      have unbound := (evaluate_needs needed).2
      have stops : remember providers name (bindings, state) = .error (.halted halt) (bindings, next) := by
        simp only [remember, unbound, provided, computed]
      rw [settleOnce, tracked.restart needed, bind_of_error stops]
      rfl

namespace Engine

variable {ω : Type} (engine : Engine ω)

/-- A pass that restarts its evaluation after every computed quantity has the same end, bindings and
state, and makes the same calls in the same states, as one sweep that never goes back. The calls
written down are those that the pass makes. -/
theorem restarts_eq_sweep (below : Host ω) (target : Target) (context : Context) (key : FormatKey)
    (expression : Expr) (state : State ω) :
    let fields : Providers (State ω) := engine.fields below target context key expression
    let fresh := Bindings.ofCategory key.category
    expression.settle fields.logged fresh (state, []) =
        expression.settleOnce fields.logged fresh (state, []) ∧
      (∃ calls, Follow fields state calls ∧
        expression.settle fields.logged fresh (state, []) =
          withLog calls (expression.settle fields fresh state)) ∧
      engine.present below target context key expression state =
        (expression.settleOnce fields fresh >>= engine.conclude target context key) state := by
  intro fields fresh
  refine ⟨?_, ?_, ?_⟩
  · rw [expression.settle_eq_settleOnce]
  · exact expression.settle_logged fields fresh state []
  · rw [present_eq, expression.settle_eq_settleOnce]

end Engine
end Narration
