import Narration.Proofs.Pass
import Narration.Proofs.Tracking
/-! How computations fail. Operations of the tracker fail where a query breaks down, fields where they
report an error, and passes only where resolutions are nested without end. -/
namespace Narration

/-- Whether a computation has a result or fails in one of the allowed ways. -/
def FailsOnly {ε σ α : Type} (allowed : ε → Prop) (action : EStateM ε σ α) : Prop :=
  ∀ state error next, action state = .error error next → allowed error

section Computations

variable {ε σ α β : Type} {allowed wider : ε → Prop}

theorem FailsOnly.bind {first : EStateM ε σ α} {rest : α → EStateM ε σ β}
    (fails : FailsOnly allowed first) (later : ∀ value, FailsOnly allowed (rest value)) :
    FailsOnly allowed (first >>= rest) := by
  intro state error next broken
  rcases bind_eq_error.mp broken with broken | ⟨value, between, -, broken⟩
  · exact fails state error next broken
  · exact later value between error next broken

theorem FailsOnly.mono {action : EStateM ε σ α} (fails : FailsOnly allowed action)
    (weaker : ∀ error, allowed error → wider error) : FailsOnly wider action := by
  intro state error next broken
  exact weaker error (fails state error next broken)

end Computations

namespace Tracker

variable {valid : Target → Query Bool}

theorem failsOnly_prune (valid : Target → Query Bool) :
    FailsOnly (fun halt => ∃ message, halt = .fault message ∧ ∃ other, valid other = .error message)
      (prune valid) := by
  intro tracker halt next broken
  obtain ⟨message, rfl, left, swept, -⟩ := prune_eq_error_iff.mp broken
  obtain ⟨checked, entry, rest, -, -, untold, -⟩ := sweep_eq_error_iff.mp swept
  exact ⟨message, rfl, entry.1, untold⟩

theorem failsOnly_answer {σ α : Type} (query : Query α) :
    FailsOnly (fun halt => ∃ message, halt = .fault message ∧ query = .error message)
      (answer query : Action σ α) := by
  intro state halt next broken
  obtain ⟨message, faulty, untold, -⟩ := answer_eq_error_iff.mp broken
  exact ⟨message, faulty, untold⟩

/-- A query that is put to record an update of `target` broke down. -/
def Breakdown (valid : Target → Query Bool) (percent : Target → Query (Option UInt32))
    (target : Target) (halt : Halt) : Prop :=
  ∃ message, halt = .fault message ∧
    ((∃ other, valid other = .error message) ∨ percent target = .error message)

theorem failsOnly_record (valid : Target → Query Bool) (percent : Target → Query (Option UInt32))
    (now : UInt64) (target : Target) (timestamp : Option UInt64) (given : Option UInt32) :
    FailsOnly (Breakdown valid percent target) (record valid percent now target timestamp given) := by
  have written (value : Option UInt32) : FailsOnly (Breakdown valid percent target)
      (modify fun tracker => (tracker.enroll target).write target ⟨some (timestamp.getD now), value⟩ :
        Action Tracker Unit) := by
    intro tracker halt next broken
    cases broken
  apply FailsOnly.bind
  · refine (failsOnly_prune valid).mono ?_
    rintro halt ⟨message, rfl, other⟩
    exact ⟨message, rfl, .inl other⟩
  · intro count
    cases given with
    | some given => exact written _
    | none =>
        apply FailsOnly.bind
        · refine (failsOnly_answer (percent target)).mono ?_
          rintro halt ⟨message, rfl, told⟩
          exact ⟨message, rfl, .inr told⟩
        · exact fun _ => written _

end Tracker

theorem Expr.failsOnly_settle {σ : Type} {allowed : Halt → Prop} {providers : Providers σ}
    (fails : ∀ name compute, providers name = some compute →
      FailsOnly (fun halt => allowed halt ∨ ∃ error, halt = .field error) compute)
    (expr : Expr) (bindings : Bindings) : FailsOnly allowed (expr.settle providers bindings) := by
  intro state halt next broken
  fun_induction Expr.settle providers expr bindings state with
  | case1 bindings state fragments done => cases broken
  | case2 bindings state name needed unknown => cases broken
  | case3 bindings state name needed compute provided value after computed ih => exact ih broken
  | case4 bindings state name needed compute provided error after failed => cases broken
  | case5 bindings state name needed compute provided other after serious halted =>
      cases broken
      rcases fails name compute provided state halt next halted with ends | ⟨error, same⟩
      · exact ends
      · exact absurd same (serious error)

theorem ObjectModel.recordProgress_eq_error {ω : Type} {objects : ObjectModel ω} {target : Target}
    {value : Option UInt32} {timestamp : Option UInt64} {state next : State ω} {halt : Halt}
    (broken : objects.recordProgress target value timestamp state = .error halt next) :
    Tracker.Breakdown (objects.isValid state.world) (objects.percent state.world) target halt := by
  rw [recordProgress, track] at broken
  split at broken
  · cases broken
  · rename_i recorded
    cases broken
    exact Tracker.failsOnly_record _ _ _ _ _ _ _ _ _ recorded

/-- A field that breaks down reports an error. -/
theorem failsOnly_guarded {σ α : Type} (action : Action σ α) :
    FailsOnly (fun halt => halt = .tooDeep ∨ ∃ error, halt = .field error) (guarded action) := by
  intro state halt next broken
  rw [guarded] at broken
  split at broken
  · cases broken
    exact .inr ⟨_, rfl⟩
  · rename_i intact
    cases halt with
    | field error => exact .inr ⟨error, rfl⟩
    | fault message => exact absurd broken (intact message next)
    | tooDeep => exact .inl rfl

namespace Engine

variable {ω : Type} (engine : Engine ω)

theorem conclude_eq_error {target : Target} {context : Context} {key : FormatKey} {settled : Settled}
    {state next : State ω} {halt : Halt}
    (broken : engine.conclude target context key settled state = .error halt next) :
    engine.objects.recordProgress target none none state = .error halt next := by
  cases ending : settled.ending with
  | unknown name =>
      simp only [conclude, ending] at broken
      cases broken
  | failed name =>
      simp only [conclude, ending] at broken
      cases broken
  | complete fragments =>
      simp only [conclude, ending] at broken
      split at broken
      · rcases bind_eq_error.mp broken with recorded | ⟨done, between, -, impossible⟩
        · exact recorded
        · cases impossible
      · cases broken

theorem failsOnly_present (below : Host ω) (target : Target) (context : Context) (key : FormatKey)
    (expression : Expr) : FailsOnly (fun halt => halt = .tooDeep ∨ ∃ message, halt = .fault message)
      (engine.present below target context key expression) := by
  rw [present_eq]
  apply FailsOnly.bind
  · apply Expr.failsOnly_settle
    intro name compute found
    obtain ⟨provider, -, rfl⟩ := Option.map_eq_some_iff.mp found
    refine (failsOnly_guarded _).mono ?_
    intro halt ends
    exact ends.imp_left .inl
  · intro settled state halt next broken
    obtain ⟨message, faulty, -⟩ :=
      ObjectModel.recordProgress_eq_error (engine.conclude_eq_error broken)
    exact .inr ⟨message, faulty⟩

/-- Every pass has a resolution, unless resolutions are nested without end. -/
theorem failsOnly_pass (below : Host ω) (target : Target) (context : Context) :
    FailsOnly (· = .tooDeep) (engine.pass below target context) := by
  intro state halt next broken
  cases opens : engine.opening? target context state with
  | none =>
      obtain ⟨outcome, key, -, skipped⟩ := pass_of_closed below opens
      rw [skipped state rfl] at broken
      cases broken
  | some opening =>
      rw [pass_of_opening opens, contained] at broken
      split at broken
      · cases broken
      · rename_i intact
        rcases engine.failsOnly_present _ _ _ _ _ _ _ _ broken with deep | ⟨message, rfl⟩
        · exact deep
        · exact absurd broken (intact message next)

end Engine
end Narration
