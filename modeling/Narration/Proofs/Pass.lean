import Narration.Proofs.Action
import Narration.Proofs.Calls
/-! What a pass can do: it ends before it has anything to evaluate, or it settles the expression of its
key, and its resolution tells how far it came. -/
namespace Narration

variable {σ : Type}

/-- The end of a settled expression agrees with its bindings: they suffice, or they lack the quantity
at which the evaluation stopped. -/
theorem Expr.settle_ending {providers : Providers σ} {expr : Expr} {bindings : Bindings}
    {state next : σ} {settled : Settled}
    (ran : expr.settle providers bindings state = .ok settled next) :
    match settled.ending with
    | .complete fragments => expr.evaluate settled.bindings.lookup = .complete fragments
    | .unknown name =>
      expr.evaluate settled.bindings.lookup = .needs name ∧ providers name = none
    | .failed name =>
      expr.evaluate settled.bindings.lookup = .needs name ∧ (providers name).isSome := by
  fun_induction Expr.settle providers expr bindings state with
  | case1 bindings state fragments done =>
      cases ran
      exact done
  | case2 bindings state name needed unknown =>
      cases ran
      exact ⟨needed, unknown⟩
  | case3 bindings state name needed compute provided value after computed ih => exact ih ran
  | case4 bindings state name needed compute provided error after failed =>
      cases ran
      exact ⟨needed, by rw [provided]; rfl⟩
  | case5 bindings state name needed compute provided halt after serious halted => cases ran

/-- A resolution from outside passes with the marks that the last one left, and leaves its own marks for
the next one. -/
theorem Host.resolveAfresh_eq_ok {ω : Type} {host : Host ω} {target : Target} {context : Context}
    {state next : State ω} {resolution : Resolution} :
    host.resolveAfresh target context state = .ok resolution next ↔
      ∃ after, host.resolve target context { state with fallbacks := state.saved } =
          .ok resolution after ∧
        next = { after with saved := after.fallbacks, fallbacks := state.fallbacks } := by
  have running : getFallbacks state = .ok state.fallbacks state := rfl
  have saved : (get : Action (State ω) (State ω)) state = .ok state state := rfl
  have restored : setFallbacks state.saved state = .ok () { state with fallbacks := state.saved } := rfl
  rw [resolveAfresh, bind_of_ok running, bind_of_ok saved, bind_of_ok restored]
  constructor
  · intro ran
    obtain ⟨result, after, passed, left⟩ := bind_eq_ok.mp ran
    cases left
    exact ⟨after, passed, rfl⟩
  · rintro ⟨after, passed, rfl⟩
    rw [bind_of_ok passed]
    rfl

/-- The outcomes of passes that end before they have anything to evaluate, or break down. -/
def Outcome.isEarly : Outcome → Bool
  | .invalidTarget | .noCategory | .noExpression | .fault _ => true
  | .presented | .unknownQuantity _ | .providerFault _ => false

namespace Engine

variable {ω : Type} (engine : Engine ω)

/-- What a pass does once its expression is settled. A presented update of an indicator is noted. -/
def conclude (target : Target) (context : Context) (key : FormatKey) (settled : Settled) :
    Action (State ω) Resolution := do
  match settled.ending with
  | .unknown name => return ⟨[], settled.bindings, .unknownQuantity name, some key⟩
  | .failed name => return ⟨[], settled.bindings, .providerFault name, some key⟩
  | .complete fragments =>
    if context.isProgressUpdate && fragments.head?.any (!·.isBlank) then
      engine.objects.recordProgress target none none
    return ⟨fragments, settled.bindings, .presented, some key⟩

theorem present_eq (below : Host ω) (target : Target) (context : Context) (key : FormatKey)
    (expression : Expr) :
    engine.present below target context key expression =
      (expression.settle (engine.fields below target context key expression)
        (.ofCategory key.category) >>= engine.conclude target context key) := rfl

theorem contains_of_isSome_fields {below : Host ω} {target : Target} {context : Context}
    {key : FormatKey} {expression : Expr} {name : QuantityName}
    (provided : (engine.fields below target context key expression name).isSome) :
    engine.registry.contains name = true := by
  simpa [fields, Registry.provider?, Registry.contains, SortedMap.contains] using provided

/-- The context that the fields of a pass over `key` see, except that it may be the outermost pass. -/
def keyedContext (context : Context) (key : FormatKey) : Context :=
  { context with
    role := some key.category, mode := some key.mode, formatType := some key.formatType }

/-- The expression that a pass evaluates: only the outermost one stands between lead and trail. -/
def evaluated (context : Context) (key : FormatKey) (body : Expr) : Expr :=
  if context.recursing then body else engine.outermost (keyedContext context key) body

/-- The state in which a pass starts to evaluate: the outermost one forgets all fallbacks. -/
def started (context : Context) (state : State ω) : State ω :=
  if context.recursing then state else { state with fallbacks := .none }

theorem started_world (context : Context) (state : State ω) :
    (started context state).world = state.world := by
  unfold started
  split
  · rfl
  · rfl

/-- The context that the fields of a pass over `key` see. -/
def innerContext (context : Context) (key : FormatKey) : Context :=
  { keyedContext context key with recursing := true }

/-- The key of a pass and the expression that is stored for it, unless the pass ends before it has
anything to evaluate. -/
def opening? (target : Target) (context : Context) (state : State ω) : Option (FormatKey × Expr) :=
  match engine.objects.isValid state.world target, engine.categoryOf target context state with
  | .ok true, .ok (some category) _ =>
    let key := engine.keyOf context category
    ((engine.table.get? key).filter (!·.isEmpty)).map fun body => (key, body)
  | _, _ => none

/-- A pass that did not skip or break down found `target` valid, and evaluated the expression that
the table has for its key. -/
structure Evaluates (below : Host ω) (target : Target) (context : Context) (state : State ω)
    (resolution : Resolution) (next : State ω) (key : FormatKey) (body : Expr) : Prop where
  valid : engine.objects.isValid state.world target = .ok true
  stored : engine.table.get? key = some body
  nonempty : body.isEmpty = false
  keyed : ∃ category, engine.categoryOf target context state = .ok (some category) state ∧
    engine.keyOf context category = key
  ran : engine.present below target { keyedContext context key with recursing := true } key
    (engine.evaluated context key body) (started context state) = .ok resolution next

theorem categoryOf_eq_ok {target : Target} {context : Context} {state next : State ω}
    {category : Option Category}
    (asked : engine.categoryOf target context state = .ok category next) : state = next := by
  cases role : context.role with
  | some chosen =>
      simp only [categoryOf, role] at asked
      exact (pure_eq_ok.mp asked).2
  | none =>
      simp only [categoryOf, role] at asked
      exact (ask_eq_ok.mp asked).2

theorem keyOf_category (context : Context) (category : Category) :
    (engine.keyOf context category).category = category := rfl

/-- The category of an object is the same in all states over one world. -/
theorem categoryOf_cases (target : Target) (context : Context) (world : ω) :
    (∃ category, ∀ state : State ω, state.world = world →
      engine.categoryOf target context state = .ok category state) ∨
    ∃ message, ∀ state : State ω, state.world = world →
      engine.categoryOf target context state = .error (.fault message) state := by
  unfold categoryOf
  cases context.role with
  | some role => exact .inl ⟨some role, fun state same => rfl⟩
  | none =>
      cases told : engine.objects.category world target with
      | ok category =>
          refine .inl ⟨category, fun state same => ask_of_ok ?_⟩
          rw [same]
          exact told
      | error message =>
          refine .inr ⟨message, fun state same => ask_of_error ?_⟩
          rw [same]
          exact told

section Opening

variable {engine} {below : Host ω} {target : Target} {context : Context} {state : State ω}
  {key : FormatKey} {body : Expr}

theorem opening_eq_some :
    engine.opening? target context state = some (key, body) ↔
      engine.objects.isValid state.world target = .ok true ∧
        ∃ category, engine.categoryOf target context state = .ok (some category) state ∧
          engine.keyOf context category = key ∧
          (engine.table.get? key).filter (!·.isEmpty) = some body := by
  constructor
  · intro opens
    unfold opening? at opens
    split at opens
    · rename_i category after alive told
      obtain rfl := engine.categoryOf_eq_ok told
      obtain ⟨stored, chosen, same⟩ := Option.map_eq_some_iff.mp opens
      cases same
      exact ⟨alive, category, told, rfl, chosen⟩
    · cases opens
  · rintro ⟨alive, category, told, rfl, chosen⟩
    simp only [opening?, alive, told, chosen, Option.map_some]

/-- Whether a pass has something to evaluate depends on the world only. -/
theorem opening_of_world {other : State ω} (same : other.world = state.world)
    (opens : engine.opening? target context state = some (key, body)) :
    engine.opening? target context other = some (key, body) := by
  obtain ⟨alive, category, told, keyed, chosen⟩ := opening_eq_some.mp opens
  rw [← same] at alive
  refine opening_eq_some.mpr ⟨alive, category, ?_, keyed, chosen⟩
  rcases engine.categoryOf_cases target context state.world with ⟨own, tells⟩ | ⟨message, broken⟩
  · rw [tells state rfl] at told
    cases told
    exact tells other same
  · rw [broken state rfl] at told
    cases told

/-- A pass without an opening says nothing and changes nothing, and so does every pass over the same
world. -/
theorem pass_of_closed (below : Host ω) (closed : engine.opening? target context state = none) :
    ∃ outcome key, outcome.isEarly ∧ ∀ other : State ω, other.world = state.world →
      engine.pass below target context other = .ok (.skipped outcome key) other := by
  cases alive : engine.objects.isValid state.world target with
  | error message =>
      refine ⟨.fault message, none, rfl, fun other same => ?_⟩
      rw [← same] at alive
      have broken : ask (engine.objects.isValid · target) other = .error (.fault message) other :=
        ask_of_error alive
      rw [pass, contained, bind_of_error broken]
  | ok valid =>
      have asked (other : State ω) (same : other.world = state.world) :
          ask (engine.objects.isValid · target) other = .ok valid other := by
        rw [← same] at alive
        exact ask_of_ok alive
      cases valid with
      | false =>
          refine ⟨.invalidTarget, none, rfl, fun other same => ?_⟩
          rw [pass, contained, bind_of_ok (asked other same)]
          rfl
      | true =>
          rcases engine.categoryOf_cases target context state.world with ⟨category, told⟩ |
            ⟨message, broken⟩
          · cases category with
            | none =>
                refine ⟨.noCategory, none, rfl, fun other same => ?_⟩
                rw [pass, contained, bind_of_ok (asked other same)]
                simp only [if_true, bind_of_ok (told other same)]
                rfl
            | some category =>
                simp only [opening?, alive, told state rfl, Option.map_eq_none_iff] at closed
                refine ⟨.noExpression, some (engine.keyOf context category), rfl, fun other same => ?_⟩
                rw [pass, contained, bind_of_ok (asked other same)]
                simp only [if_true, bind_of_ok (told other same), closed]
                rfl
          · refine ⟨.fault message, none, rfl, fun other same => ?_⟩
            rw [pass, contained, bind_of_ok (asked other same)]
            simp only [if_true, bind_of_error (broken other same)]

theorem pass_of_opening (opens : engine.opening? target context state = some (key, body)) :
    engine.pass below target context state =
      contained (engine.present below target (innerContext context key) key
        (engine.evaluated context key body)) (started context state) := by
  obtain ⟨alive, category, told, rfl, chosen⟩ := opening_eq_some.mp opens
  have asked : ask (engine.objects.isValid · target) state = .ok true state := ask_of_ok alive
  rw [pass, contained, contained, bind_of_ok asked]
  simp only [if_true, bind_of_ok told, chosen]
  cases recursing : context.recursing with
  | true => simp only [evaluated, started, recursing, if_true, innerContext, keyedContext, keyOf_category]
  | false =>
      have reset : setFallbacks .none state = .ok () { state with fallbacks := .none } := rfl
      simp only [evaluated, started, recursing, Bool.false_eq_true, if_false, bind_of_ok reset,
        innerContext, keyedContext, keyOf_category]

end Opening

theorem pass_cases {below : Host ω} {target : Target} {context : Context} {state next : State ω}
    {resolution : Resolution}
    (ran : engine.pass below target context state = .ok resolution next) :
    (∃ outcome key, resolution = .skipped outcome key ∧ outcome.isEarly) ∨
      ∃ key body, engine.Evaluates below target context state resolution next key body := by
  cases opens : engine.opening? target context state with
  | none =>
      obtain ⟨outcome, key, early, skipped⟩ := pass_of_closed below opens
      cases (skipped state rfl).symm.trans ran
      exact .inl ⟨outcome, key, rfl, early⟩
  | some opening =>
      obtain ⟨key, body⟩ := opening
      rw [pass_of_opening opens] at ran
      rcases contained_eq_ok.mp ran with ran | ⟨message, -, broken⟩
      · obtain ⟨alive, category, told, keyed, chosen⟩ := opening_eq_some.mp opens
        obtain ⟨stored, nonempty⟩ := Option.filter_eq_some_iff.mp chosen
        exact .inr ⟨key, body, alive, stored, by simpa using nonempty, ⟨category, told, keyed⟩, ran⟩
      · exact .inl ⟨.fault message, none, broken, rfl⟩

theorem present_cases {below : Host ω} {target : Target} {context : Context} {key : FormatKey}
    {expression : Expr} {state next : State ω} {resolution : Resolution}
    (ran : engine.present below target context key expression state = .ok resolution next) :
    ∃ settled between,
      expression.settle (engine.fields below target context key expression)
        (.ofCategory key.category) state = .ok settled between ∧
      engine.conclude target context key settled between = .ok resolution next := by
  rw [present_eq] at ran
  exact bind_eq_ok.mp ran

theorem conclude_eq_ok {target : Target} {context : Context} {key : FormatKey} {settled : Settled}
    {state next : State ω} {resolution : Resolution}
    (ran : engine.conclude target context key settled state = .ok resolution next) :
    resolution =
      match settled.ending with
      | .complete fragments => ⟨fragments, settled.bindings, .presented, some key⟩
      | .unknown name => ⟨[], settled.bindings, .unknownQuantity name, some key⟩
      | .failed name => ⟨[], settled.bindings, .providerFault name, some key⟩ := by
  cases ending : settled.ending with
  | unknown name =>
      simp only [conclude, ending] at ran
      exact (pure_eq_ok.mp ran).1.symm
  | failed name =>
      simp only [conclude, ending] at ran
      exact (pure_eq_ok.mp ran).1.symm
  | complete fragments =>
      simp only [conclude, ending] at ran
      split at ran
      · obtain ⟨_, between, -, ran⟩ := bind_eq_ok.mp ran
        exact (pure_eq_ok.mp ran).1.symm
      · exact (pure_eq_ok.mp ran).1.symm

end Engine
end Narration
