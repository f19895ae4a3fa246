import Narration.Proofs.Sweep
/-! The loop of a pass with a budget of rounds. The main result: one round more than there are names in
the expression is enough, each round evaluates the expression once, and no quantity is computed twice. -/
namespace Narration

variable {σ : Type}

/-- The names that an expression can need, each once. -/
def Expr.quantities (expr : Expr) : List QuantityName :=
  (expr.references.filter (!·.isReserved)).eraseDups

/-- One round of the loop: the quantities that are bound when it evaluates the expression, and the call
that it makes because one is missing. -/
structure Round (σ : Type) where
  bindings : Bindings
  call : Option (Call σ)

/-- The bindings after a round: a call that succeeds adds its own name, and nothing else is added. -/
def Round.after (round : Round σ) : Bindings :=
  match round.call with
  | some ⟨name, _, .ok value _⟩ =>
    { round.bindings with values := round.bindings.values ++ [(name, value)] }
  | _ => round.bindings

/-- Whether the bindings grow from `start` to `final` by the calls of the rounds alone. -/
def Grows (start final : Bindings) : List (Round σ) → Prop
  | [] => final = start
  | round :: later => round.bindings = start ∧ Grows round.after final later

/-- The loop, stopped after `budget` rounds: the rounds that it made, and its result if it came to its
end. Every round evaluates the expression once. -/
def Expr.settleWithin (providers : Providers σ) (expr : Expr) :
    Nat → Bindings → σ → List (Round σ) × Option (EStateM.Result Halt σ Settled)
  | 0, _, _ => ([], none)
  | budget + 1, bindings, state =>
    match expr.evaluate bindings.lookup with
    | .complete fragments => ([⟨bindings, none⟩], some (.ok ⟨bindings, .complete fragments⟩ state))
    | .needs name =>
      match providers name with
      | none => ([⟨bindings, none⟩], some (.ok ⟨bindings, .unknown name⟩ state))
      | some compute =>
        let round : Round σ := ⟨bindings, some ⟨name, state, compute state⟩⟩
        match compute state with
        | .ok value next =>
          let later := expr.settleWithin providers budget (bindings.extend name value) next
          (round :: later.1, later.2)
        | .error (.field _) next => ([round], some (.ok ⟨bindings, .failed name⟩ next))
        | .error halt next => ([round], some (.error halt next))

/-- The number of names that the expression can still need. -/
def Bindings.missingFrom (bindings : Bindings) (expr : Expr) : Nat :=
  expr.quantities.countP fun name => (bindings.lookup name).isNone

theorem Bindings.missingFrom_extend_lt {bindings : Bindings} {name : QuantityName} {expr : Expr}
    (needed : expr.evaluate bindings.lookup = .needs name) (value : List Fragment) :
    (bindings.extend name value).missingFrom expr < bindings.missingFrom expr := by
  obtain ⟨occurs, unbound⟩ := Expr.evaluate_needs needed
  have free : name.isReserved = false := (lookup_eq_none.mp unbound).1
  have counted : name ∈ expr.quantities := by
    rw [Expr.quantities, List.mem_eraseDups, List.mem_filter]
    exact ⟨occurs, by rw [free]; rfl⟩
  refine countP_lt_countP (fun other => ?_) counted (by simp [unbound]) ?_
  · rw [lookup_extend unbound]
    split <;> simp
  · simp [lookup_extend unbound]

/-- What allows a call: the expression needs the quantity, which has a field and no value so far. -/
structure Engine.Admits {ω : Type} (engine : Engine ω) (expr : Expr) (bindings : Bindings)
    (name : QuantityName) : Prop where
  occurs : name ∈ expr.references
  registered : engine.registry.contains name = true
  free : name.isReserved = false
  unbound : bindings.value? name = none

namespace Expr

variable {providers : Providers σ} {expr : Expr} {budget : Nat} {bindings : Bindings} {state : σ}

/-- A budget above the number of missing names is never used up. -/
theorem settleWithin_result (enough : bindings.missingFrom expr < budget) :
    (expr.settleWithin providers budget bindings state).2 =
      some (expr.settle providers bindings state) := by
  fun_induction settleWithin providers expr budget bindings state with
  | case1 bindings state => omega
  | case2 budget bindings state fragments done => rw [settle_of_complete done]
  | case3 budget bindings state name needed unknown => rw [settle_of_unknown needed unknown]
  | case4 budget bindings state name needed compute provided round value next computed later ih =>
      have fewer := Bindings.missingFrom_extend_lt needed value
      rw [settle_of_computed needed provided computed]
      exact ih (by omega)
  | case5 budget bindings state name needed compute provided round error next failed =>
      rw [settle_of_failed needed provided failed]
  | case6 budget bindings state name needed compute provided round halt next serious halted =>
      rw [settle_of_halted needed provided serious halted]

/-- There is at most one round for each missing name, and one to finish. -/
theorem settleWithin_length_le :
    (expr.settleWithin providers budget bindings state).1.length ≤ bindings.missingFrom expr + 1 := by
  fun_induction settleWithin providers expr budget bindings state with
  | case1 bindings state => exact Nat.zero_le _
  | case4 budget bindings state name needed compute provided round value next computed later ih =>
      have fewer := Bindings.missingFrom_extend_lt needed value
      rw [List.length_cons]
      have within : later.1.length ≤ _ := ih
      omega
  | case2 | case3 | case5 | case6 => exact Nat.le_add_left 1 _

/-- The calls of the rounds are those that the providers write down. -/
theorem settle_logged_rounds (enough : bindings.missingFrom expr < budget) (earlier : List (Call σ)) :
    expr.settle providers.logged bindings (state, earlier) =
      withLog (earlier ++ (expr.settleWithin providers budget bindings state).1.filterMap Round.call)
        (expr.settle providers bindings state) := by
  fun_induction settleWithin providers expr budget bindings state generalizing earlier with
  | case1 bindings state => omega
  | case2 budget bindings state fragments done =>
      rw [settle_of_complete done, settle_of_complete done]
      simp [withLog]
  | case3 budget bindings state name needed unknown =>
      rw [settle_of_unknown needed unknown, settle_of_unknown needed (logged_eq_none unknown)]
      simp [withLog]
  | case4 budget bindings state name needed compute provided round value next computed later ih =>
      have fewer := Bindings.missingFrom_extend_lt needed value
      rw [settle_of_computed needed provided computed,
        settle_of_computed needed (logged_eq_some provided) (logCall_of computed), ih (by omega)]
      simp [round, later, computed]
  | case5 budget bindings state name needed compute provided round error next failed =>
      rw [settle_of_failed needed provided failed,
        settle_of_failed needed (logged_eq_some provided) (logCall_of failed)]
      simp [round, failed, withLog]
  | case6 budget bindings state name needed compute provided round halt next serious halted =>
      rw [settle_of_halted needed provided serious halted,
        settle_of_halted needed (logged_eq_some provided) serious (logCall_of halted)]
      simp [round, halted, withLog]

theorem calls_eq_rounds (enough : bindings.missingFrom expr < budget) :
    expr.calls providers bindings state =
      (expr.settleWithin providers budget bindings state).1.filterMap Round.call := by
  rw [calls, settle_logged_rounds enough, finalState_withLog]
  rfl

/-- A round calls the provider of the quantity at which its evaluation stopped. -/
theorem evaluate_of_call {round : Round σ} {call : Call σ}
    (made : round ∈ (expr.settleWithin providers budget bindings state).1)
    (called : round.call = some call) :
    expr.evaluate round.bindings.lookup = .needs call.name ∧ (providers call.name).isSome := by
  fun_induction settleWithin providers expr budget bindings state with
  | case1 bindings state => cases made
  | case2 budget bindings state fragments done =>
      cases List.mem_singleton.mp made
      cases called
  | case3 budget bindings state name needed unknown =>
      cases List.mem_singleton.mp made
      cases called
  | case4 budget bindings state name needed compute provided first value next computed later ih =>
      rcases List.mem_cons.mp made with rfl | made
      · cases called
        exact ⟨needed, by rw [provided]; rfl⟩
      · exact ih made
  | case5 budget bindings state name needed compute provided only error next failed
  | case6 budget bindings state name needed compute provided only halt next serious halted =>
      rw [List.mem_singleton.mp made] at called ⊢
      cases called
      exact ⟨needed, by rw [provided]; rfl⟩

/-- No round binds anything but what it computes. -/
theorem settleWithin_grows :
    ∃ final, Grows bindings final (expr.settleWithin providers budget bindings state).1 ∧
      ∀ settled next, (expr.settleWithin providers budget bindings state).2 = some (.ok settled next) →
        settled.bindings = final := by
  fun_induction settleWithin providers expr budget bindings state with
  | case1 bindings state =>
      refine ⟨bindings, rfl, ?_⟩
      intro settled next ended
      cases ended
  | case2 budget bindings state fragments done =>
      refine ⟨bindings, ⟨rfl, rfl⟩, ?_⟩
      intro settled next ended
      cases ended
      rfl
  | case3 budget bindings state name needed unknown =>
      refine ⟨bindings, ⟨rfl, rfl⟩, ?_⟩
      intro settled next ended
      cases ended
      rfl
  | case4 budget bindings state name needed compute provided round value next computed later ih =>
      obtain ⟨final, grows, ends⟩ := ih
      have bound : round.after = bindings.extend name value := by
        simp only [round, Round.after, computed, Bindings.extend,
          Bindings.bind_of_lookup_eq_none (evaluate_needs needed).2, Option.getD_some]
      refine ⟨final, ⟨rfl, ?_⟩, ends⟩
      rw [bound]
      exact grows
  | case5 budget bindings state name needed compute provided round error next failed =>
      have kept : round.after = bindings := by
        simp only [round, Round.after, failed]
      refine ⟨bindings, ⟨rfl, kept.symm⟩, ?_⟩
      intro settled next ended
      cases ended
      rfl
  | case6 budget bindings state name needed compute provided round halt next serious halted =>
      have kept : round.after = bindings := by
        simp only [round, Round.after, halted]
      refine ⟨bindings, ⟨rfl, kept.symm⟩, ?_⟩
      intro settled next ended
      cases ended

/-- What is bound stays bound in all later rounds. -/
theorem within_of_mem_settleWithin {round : Round σ}
    (made : round ∈ (expr.settleWithin providers budget bindings state).1) :
    Scope.Within bindings.lookup round.bindings.lookup := by
  fun_induction settleWithin providers expr budget bindings state with
  | case1 bindings state => cases made
  | case4 budget bindings state name needed compute provided first value next computed later ih =>
      rcases List.mem_cons.mp made with rfl | made
      · exact fun _ _ bound => bound
      · intro other known bound
        exact ih made other known
          (Bindings.lookup_within_extend (evaluate_needs needed).2 value other known bound)
  | case2 | case3 | case5 | case6 =>
      rw [List.mem_singleton.mp made]
      exact fun _ _ bound => bound

/-- No quantity is computed twice. -/
theorem nodup_settleWithin :
    (((expr.settleWithin providers budget bindings state).1.filterMap Round.call).map Call.name).Nodup := by
  fun_induction settleWithin providers expr budget bindings state with
  | case4 budget bindings state name needed compute provided round value next computed later ih =>
      refine List.nodup_cons.mpr ⟨fun again => ?_, ih⟩
      obtain ⟨call, listed, same⟩ := List.mem_map.mp again
      obtain ⟨second, made, called⟩ := List.mem_filterMap.mp listed
      have bound : (bindings.extend name value).lookup name = some value := by
        rw [Bindings.lookup_extend (evaluate_needs needed).2, if_pos rfl]
      have still := within_of_mem_settleWithin made name value bound
      have missing := (evaluate_needs (evaluate_of_call made called).1).2
      rw [same] at missing
      rw [missing] at still
      cases still
  | case1 | case2 | case3 => exact .nil
  | case5 | case6 => exact List.pairwise_singleton _ _

/-- Three rounds for two quantities, one of which occurs twice. -/
example : (((settleWithin (fun name => some (pure [.text name.text]))
    (.concat (.ref ⟨"name"⟩) (.concat (.ref ⟨"level"⟩) (.ref ⟨"name"⟩))) 5 .empty ()).1.map
      fun round => round.call.map Call.name)) = [some ⟨"name"⟩, some ⟨"level"⟩, none] := by decide

end Expr

theorem Bindings.missingFrom_ofCategory_le (category : Category) (expr : Expr) :
    (Bindings.ofCategory category).missingFrom expr ≤ expr.quantities.length :=
  List.countP_le_length

namespace Engine

variable {ω : Type} (engine : Engine ω)

/-- However many rounds the loop may make, a pass ends after at most one round more than its expression
has names that are not reserved. Each call of a round is for a quantity that the engine admits there, no
quantity is called twice, and the bindings grow by what the calls compute and by nothing else. -/
theorem rounds_compute_once (below : Host ω) (target : Target) (context : Context) (key : FormatKey)
    (expression : Expr) (state : State ω) (spare : Nat) :
    let fields : Providers (State ω) := engine.fields below target context key expression
    let fresh := Bindings.ofCategory key.category
    let loop := expression.settleWithin fields (expression.quantities.length + 1 + spare) fresh state
    let calls := loop.1.filterMap Round.call
    loop.2 = some (expression.settle fields fresh state) ∧
      engine.present below target context key expression =
        (expression.settle fields fresh >>= engine.conclude target context key) ∧
      loop.1.length ≤ expression.quantities.length + 1 ∧
      calls = expression.calls fields fresh state ∧ Follow fields state calls ∧
      (∀ round ∈ loop.1, ∀ call, round.call = some call →
        engine.Admits expression round.bindings call.name) ∧
      (calls.map Call.name).Nodup ∧
      ∃ final, Grows fresh final loop.1 ∧
        ∀ settled next, loop.2 = some (.ok settled next) → settled.bindings = final := by
  intro fields fresh loop calls
  have few : fresh.missingFrom expression ≤ expression.quantities.length :=
    Bindings.missingFrom_ofCategory_le key.category expression
  have enough : fresh.missingFrom expression < expression.quantities.length + 1 + spare := by omega
  have short : loop.1.length ≤ fresh.missingFrom expression + 1 := Expr.settleWithin_length_le
  have logged : expression.calls fields fresh state = calls := Expr.calls_eq_rounds enough
  refine ⟨Expr.settleWithin_result enough, engine.present_eq below target context key expression,
    by omega, logged.symm, ?_, ?_, Expr.nodup_settleWithin, Expr.settleWithin_grows⟩
  · rw [← logged]
    exact expression.follow_calls fields fresh state
  · intro round made call called
    obtain ⟨needed, provided⟩ := Expr.evaluate_of_call made called
    obtain ⟨occurs, unbound⟩ := Expr.evaluate_needs needed
    obtain ⟨free, absent⟩ := Bindings.lookup_eq_none.mp unbound
    exact ⟨occurs, engine.contains_of_isSome_fields provided, free, absent⟩

end Engine
end Narration
