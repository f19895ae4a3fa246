import Narration.Engine
/-! How computations on the engine's state succeed, step by step. -/
namespace Narration

/-- The state that a computation leaves. -/
def finalState {ε σ α : Type} : EStateM.Result ε σ α → σ
  | .ok _ state | .error _ state => state

section Computations

variable {ε σ α β : Type} {state next : σ}

theorem bind_of_ok {first : EStateM ε σ α} {value : α} (ran : first state = .ok value next)
    (rest : α → EStateM ε σ β) : (first >>= rest) state = rest value next := by
  simp only [bind, EStateM.bind, ran]

theorem bind_of_error {first : EStateM ε σ α} {error : ε} (ran : first state = .error error next)
    (rest : α → EStateM ε σ β) : (first >>= rest) state = .error error next := by
  simp only [bind, EStateM.bind, ran]

theorem bind_eq_ok {first : EStateM ε σ α} {rest : α → EStateM ε σ β} {result : β} :
    (first >>= rest) state = .ok result next ↔
      ∃ value between, first state = .ok value between ∧ rest value between = .ok result next := by
  simp only [bind, EStateM.bind]
  cases first state with
  | ok value between =>
      constructor
      · exact fun done => ⟨value, between, rfl, done⟩
      · rintro ⟨other, after, ran, done⟩
        cases ran
        exact done
  | error error between => simp

theorem bind_eq_error {first : EStateM ε σ α} {rest : α → EStateM ε σ β} {error : ε} :
    (first >>= rest) state = .error error next ↔
      first state = .error error next ∨
        ∃ value between, first state = .ok value between ∧ rest value between = .error error next := by
  simp only [bind, EStateM.bind]
  cases first state with
  | ok value between =>
      constructor
      · exact fun broken => .inr ⟨value, between, rfl, broken⟩
      · rintro (none | ⟨other, after, ran, broken⟩)
        · cases none
        · cases ran
          exact broken
  | error other between => simp

theorem pure_eq_ok {value result : α} :
    (pure value : EStateM ε σ α) state = .ok result next ↔ value = result ∧ state = next := by
  simp [pure, EStateM.pure]

theorem discard_eq_ok {first : EStateM ε σ α} {done : Unit} :
    (first >>= fun _ => pure ()) state = .ok done next ↔ ∃ value, first state = .ok value next := by
  rw [bind_eq_ok]
  constructor
  · rintro ⟨value, between, ran, rest⟩
    cases rest
    exact ⟨value, ran⟩
  · rintro ⟨value, ran⟩
    exact ⟨value, next, ran, rfl⟩

/-- Where what follows has a result in every state, only the first step can fail. -/
theorem bind_eq_error_of_total {first : EStateM ε σ α} {rest : α → EStateM ε σ β} {error : ε}
    (total : ∀ value between, ∃ result after, rest value between = .ok result after) :
    (first >>= rest) state = .error error next ↔ first state = .error error next := by
  rw [bind_eq_error, or_iff_left]
  rintro ⟨value, between, -, broken⟩
  obtain ⟨result, after, ran⟩ := total value between
  rw [ran] at broken
  cases broken

theorem discard_eq_error {first : EStateM ε σ α} {error : ε} :
    (first >>= fun _ => pure ()) state = .error error next ↔ first state = .error error next :=
  bind_eq_error_of_total fun _ between => ⟨(), between, rfl⟩

/-- Whether a computation succeeds and its result and the state that it leaves pass a test. -/
def okWith (test : α → σ → Bool) : EStateM.Result ε σ α → Bool
  | .ok value state => test value state
  | .error _ _ => false

theorem exists_ok_of_okWith {test : α → σ → Bool} {result : EStateM.Result ε σ α}
    (passed : okWith test result) : ∃ value state, result = .ok value state ∧ test value state := by
  cases result with
  | ok value state => exact ⟨value, state, rfl, passed⟩
  | error error state => cases passed

/-- What is done with a result that changes nothing leaves the state as it is. -/
theorem finalState_bind_pure (first : EStateM ε σ α) (last : α → β) (state : σ) :
    finalState ((first >>= fun value => pure (last value)) state) = finalState (first state) := by
  simp only [bind, EStateM.bind]
  cases first state <;> rfl

end Computations

section Engine

variable {ω α : Type} {state next : State ω}

theorem ask_eq_ok {query : ω → Query α} {answer : α} :
    ask query state = .ok answer next ↔ query state.world = .ok answer ∧ state = next := by
  simp only [ask]
  cases query state.world <;> simp

theorem ask_of_ok {query : ω → Query α} {answer : α} (answered : query state.world = .ok answer) :
    ask query state = .ok answer state := ask_eq_ok.mpr ⟨answered, rfl⟩

theorem ask_of_error {query : ω → Query α} {message : String}
    (broken : query state.world = .error message) :
    ask query state = .error (.fault message) state := by
  rw [ask, broken]

theorem setFallback_eq_ok {fallback : Fallback} {value : Bool} {done : Unit} :
    setFallback fallback value state = .ok done next ↔
      { state with fallbacks := state.fallbacks.set fallback value } = next := by
  change EStateM.Result.ok () { state with fallbacks := state.fallbacks.set fallback value } =
    .ok done next ↔ _
  simp

/-- Guarding a field adds no result. -/
theorem guarded_eq_ok {action : Action (State ω) α} {result : α} :
    guarded action state = .ok result next ↔ action state = .ok result next := by
  simp only [guarded]
  split
  · rename_i broken
    simp [broken]
  · rfl

theorem contained_eq_ok {action : Action (State ω) Resolution} {resolution : Resolution} :
    contained action state = .ok resolution next ↔
      action state = .ok resolution next ∨
        ∃ message, action state = .error (.fault message) next ∧
          resolution = .skipped (.fault message) none := by
  simp only [contained]
  split
  · rename_i message after broken
    simp only [broken, reduceCtorEq, false_or, EStateM.Result.ok.injEq, EStateM.Result.error.injEq,
      Halt.fault.injEq]
    constructor
    · rintro ⟨rfl, rfl⟩
      exact ⟨message, ⟨rfl, rfl⟩, rfl⟩
    · rintro ⟨other, ⟨rfl, rfl⟩, rfl⟩
      exact ⟨rfl, rfl⟩
  · rename_i intact
    constructor
    · exact Or.inl
    · rintro (done | ⟨message, broken, -⟩)
      · exact done
      · exact absurd broken (intact message next)

theorem finalState_guarded (action : Action (State ω) α) (state : State ω) :
    finalState (guarded action state) = finalState (action state) := by
  unfold guarded
  split
  · rename_i broken
    rw [broken]
    rfl
  · rfl

theorem finalState_contained (action : Action (State ω) Resolution) (state : State ω) :
    finalState (contained action state) = finalState (action state) := by
  unfold contained
  split
  · rename_i broken
    rw [broken]
    rfl
  · rfl

theorem finalState_track (operation : UInt64 → ω → Action Tracker α) (state : State ω) :
    finalState (track operation state) =
      { state with tracker := finalState (operation state.clock state.world state.tracker) } := by
  rw [track]
  cases operation state.clock state.world state.tracker <;> rfl

end Engine
end Narration
