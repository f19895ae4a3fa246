import Narration.Proofs.Action
/-! The calls that a pass makes. The main result: providers that write down their calls say and do the
same as before, and each call finds the state that the call before it left. -/
namespace Narration

/-- What computes each quantity; nothing for a quantity that nobody provides. -/
abbrev Providers (σ : Type) := QuantityName → Option (Action σ (List Fragment))

/-- One call of a provider: the state that it found and what it made of it. -/
structure Call (σ : Type) where
  name : QuantityName
  found : σ
  result : EStateM.Result Halt σ (List Fragment)

variable {σ α ε κ : Type}

/-- A result together with what was written down on the way. -/
def withLog (log : κ) : EStateM.Result ε σ α → EStateM.Result ε (σ × κ) α
  | .ok value state => .ok value (state, log)
  | .error error state => .error error (state, log)

theorem finalState_withLog (log : κ) (result : EStateM.Result ε σ α) :
    finalState (withLog log result) = (finalState result, log) := by
  cases result <;> rfl

/-- A provider's computation that also writes down its call. -/
def logCall (name : QuantityName) (compute : Action σ (List Fragment)) :
    Action (σ × List (Call σ)) (List Fragment) := fun memory =>
  withLog (memory.2 ++ [⟨name, memory.1, compute memory.1⟩]) (compute memory.1)

/-- Providers that also write down their calls, in the order of the calls. -/
def Providers.logged (providers : Providers σ) : Providers (σ × List (Call σ)) := fun name =>
  (providers name).map (logCall name)

/-- Whether the calls were made one after another from `state` on, each by its provider and in the
state that the call before it left. Only the last call can fail. -/
def Follow (providers : Providers σ) : σ → List (Call σ) → Prop
  | _, [] => True
  | state, call :: calls =>
    call.found = state ∧ (∃ compute, providers call.name = some compute ∧ compute state = call.result) ∧
      match call.result with
      | .ok _ next => Follow providers next calls
      | .error _ _ => calls = []

theorem logged_eq_none {providers : Providers σ} {name : QuantityName}
    (unknown : providers name = none) : providers.logged name = none := by
  rw [Providers.logged, unknown]
  rfl

theorem logged_eq_some {providers : Providers σ} {name : QuantityName}
    {compute : Action σ (List Fragment)} (provided : providers name = some compute) :
    providers.logged name = some (logCall name compute) := by
  rw [Providers.logged, provided]
  rfl

theorem logCall_of {name : QuantityName} {compute : Action σ (List Fragment)} {state : σ}
    {earlier : List (Call σ)} {result : EStateM.Result Halt σ (List Fragment)}
    (run : compute state = result) :
    logCall name compute (state, earlier) = withLog (earlier ++ [⟨name, state, result⟩]) result := by
  rw [logCall, run]

/-- Writing the calls down changes nothing else. -/
theorem Expr.settle_logged (providers : Providers σ) (expr : Expr) (bindings : Bindings) (state : σ)
    (earlier : List (Call σ)) :
    ∃ calls, Follow providers state calls ∧
      expr.settle providers.logged bindings (state, earlier) =
        withLog (earlier ++ calls) (expr.settle providers bindings state) := by
  fun_induction Expr.settle providers expr bindings state generalizing earlier with
  | case1 bindings state fragments done =>
      refine ⟨[], trivial, ?_⟩
      rw [settle_of_complete done, List.append_nil]
      rfl
  | case2 bindings state name needed unknown =>
      refine ⟨[], trivial, ?_⟩
      rw [settle_of_unknown needed (logged_eq_none unknown), List.append_nil]
      rfl
  | case3 bindings state name needed compute provided value next computed ih =>
      obtain ⟨calls, follow, rest⟩ := ih (earlier ++ [⟨name, state, .ok value next⟩])
      refine ⟨⟨name, state, .ok value next⟩ :: calls, ⟨rfl, ⟨compute, provided, computed⟩, follow⟩, ?_⟩
      rw [settle_of_computed needed (logged_eq_some provided) (logCall_of computed), rest,
        List.append_assoc, List.singleton_append]
  | case4 bindings state name needed compute provided error next failed =>
      refine ⟨[⟨name, state, .error (.field error) next⟩], ⟨rfl, ⟨compute, provided, failed⟩, rfl⟩, ?_⟩
      exact settle_of_failed needed (logged_eq_some provided) (logCall_of failed)
  | case5 bindings state name needed compute provided halt next serious halted =>
      refine ⟨[⟨name, state, .error halt next⟩], ⟨rfl, ⟨compute, provided, halted⟩, rfl⟩, ?_⟩
      exact settle_of_halted needed (logged_eq_some provided) serious (logCall_of halted)

/-- The calls that an evaluation makes. -/
def Expr.calls (providers : Providers σ) (expr : Expr) (bindings : Bindings) (state : σ) :
    List (Call σ) :=
  (finalState (expr.settle providers.logged bindings (state, []))).2

theorem Expr.follow_calls (providers : Providers σ) (expr : Expr) (bindings : Bindings) (state : σ) :
    Follow providers state (expr.calls providers bindings state) := by
  obtain ⟨calls, follow, logged⟩ := expr.settle_logged providers bindings state []
  have same : expr.calls providers bindings state = calls := by
    rw [Expr.calls, logged, List.nil_append]
    cases expr.settle providers bindings state <;> rfl
  rw [same]
  exact follow

/-- What a call says; nothing if it fails. -/
def Call.told (call : Call σ) : List Fragment :=
  match call.result with
  | .ok value _ => value
  | .error _ _ => []

section Follow

variable {providers : Providers σ} {state : σ} {call : Call σ} {earlier later : List (Call σ)}

theorem Follow.of_append (follow : Follow providers state (earlier ++ call :: later)) :
    Follow providers call.found (call :: later) := by
  induction earlier generalizing state with
  | nil =>
      obtain ⟨rfl, goes⟩ := follow
      exact ⟨rfl, goes⟩
  | cons first rest ih =>
      obtain ⟨-, -, goes⟩ := follow
      split at goes
      · exact ih goes
      · cases rest <;> cases goes

theorem Follow.provided (follow : Follow providers state (call :: later)) :
    ∃ compute, providers call.name = some compute ∧ compute call.found = call.result := by
  obtain ⟨rfl, provided, -⟩ := follow
  exact provided

/-- A call that others follow has a result. -/
theorem Follow.result (follow : Follow providers state (call :: later)) (further : later ≠ []) :
    ∃ value next, call.result = .ok value next ∧ Follow providers next later := by
  obtain ⟨-, -, goes⟩ := follow
  split at goes
  · rename_i value next result
    exact ⟨value, next, result, goes⟩
  · exact absurd goes further

/-- What holds at a call was gained in one of the calls before it and then kept, or held all the time. -/
theorem Follow.exists_last_gain (holds : σ → Prop)
    (follow : Follow providers state (earlier ++ call :: later)) (held : holds call.found) :
    (holds state ∧ ∀ other ∈ earlier, holds (finalState other.result)) ∨
      ∃ before gain between, earlier = before ++ gain :: between ∧ ¬ holds gain.found ∧
        ∀ other ∈ gain :: between, holds (finalState other.result) := by
  induction earlier generalizing state with
  | nil =>
      obtain ⟨rfl, -⟩ := follow
      exact .inl ⟨held, fun _ member => nomatch member⟩
  | cons first rest ih =>
      obtain ⟨value, next, result, goes⟩ := follow.result (by simp)
      obtain ⟨rfl, -⟩ := follow
      rcases ih goes with ⟨gained, kept⟩ | ⟨before, gain, between, rfl, unheld, kept⟩
      · have all : ∀ other ∈ first :: rest, holds (finalState other.result) := by
          refine List.forall_mem_cons.mpr ⟨?_, kept⟩
          rw [result]
          exact gained
        by_cases held : holds first.found
        · exact .inl ⟨held, all⟩
        · exact .inr ⟨[], first, rest, rfl, held, all⟩
      · exact .inr ⟨first :: before, gain, between, rfl, unheld, kept⟩

/-- What holds at first, and after each of some calls, holds at the call behind them. -/
theorem Follow.holds_of_kept (holds : σ → Prop)
    (follow : Follow providers state (earlier ++ call :: later)) (held : holds state)
    (kept : ∀ other ∈ earlier, holds (finalState other.result)) : holds call.found := by
  induction earlier generalizing state with
  | nil =>
      obtain ⟨rfl, -⟩ := follow
      exact held
  | cons first rest ih =>
      obtain ⟨value, next, result, goes⟩ := follow.result (by simp)
      obtain ⟨after, kept⟩ := List.forall_mem_cons.mp kept
      rw [result] at after
      exact ih goes after kept

/-- What does not hold at first holds at a call exactly if one of the calls before it gained it, and those
behind kept it. -/
theorem Follow.gained_iff (holds : σ → Prop)
    (follow : Follow providers state (earlier ++ call :: later)) (unheld : ¬ holds state) :
    holds call.found ↔ ∃ before gain between, earlier = before ++ gain :: between ∧
      ¬ holds gain.found ∧ ∀ other ∈ gain :: between, holds (finalState other.result) := by
  constructor
  · exact fun held => (follow.exists_last_gain holds held).resolve_left fun all => unheld all.1
  · rintro ⟨before, gain, between, rfl, -, kept⟩
    rw [List.append_assoc, List.cons_append] at follow
    obtain ⟨value, next, result, onward⟩ := follow.of_append.result (by simp)
    obtain ⟨gained, kept⟩ := List.forall_mem_cons.mp kept
    rw [result] at gained
    exact onward.holds_of_kept holds gained kept

/-- What held at first and does not hold any more was lost in one of the calls. -/
theorem Follow.exists_loss (holds : σ → Prop) {between : List (Call σ)}
    (follow : Follow providers state (between ++ call :: later)) (before : holds state)
    (after : ¬ holds call.found) :
    ∃ lost ∈ between, holds lost.found ∧ ∃ compute value next, providers lost.name = some compute ∧
      lost.result = .ok value next ∧ compute lost.found = .ok value next ∧ ¬ holds next := by
  obtain ⟨front, lost, rest, rfl, held, gone⟩ :=
    (follow.gained_iff (fun state => ¬ holds state) (not_not_intro before)).mp after
  rw [List.append_assoc, List.cons_append] at follow
  obtain ⟨compute, provided, ran⟩ := follow.of_append.provided
  obtain ⟨value, next, result, -⟩ := follow.of_append.result (by simp)
  have gone := gone lost (.head _)
  rw [result] at ran gone
  exact ⟨lost, by simp, Classical.not_not.mp held, compute, value, next, provided, result, ran, gone⟩

end Follow

end Narration
