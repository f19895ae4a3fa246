import Narration.Proofs.Failure
import Narration.Proofs.Sweep
/-! Laziness shows nowhere. The main result: where quantities always say the same, a resolution presents
what the expression of its pass says when every registered quantity is known from the start. -/
namespace Narration

/-- Whether the provider of `name` says `value` in every state of a kind that it does not leave. -/
def Providers.Tells {σ : Type} (providers : Providers σ) (kind : σ → Prop) (name : QuantityName)
    (value : List Fragment) : Prop :=
  ∃ compute, providers name = some compute ∧
    ∀ state, kind state → ∃ next, compute state = .ok value next ∧ kind next

section Settling

variable {σ : Type} {providers : Providers σ} {kind : σ → Prop} {eager : Scope}

/-- The evaluation never stops for good, and what it binds it binds to the eager value. -/
theorem Expr.settle_of_tells {expr : Expr} {bindings : Bindings} {state : σ}
    (told : ∀ name ∈ expr.references, name.isReserved = false →
      ∃ value, eager name = some value ∧ providers.Tells kind name value)
    (agree : Scope.Within bindings.lookup eager) (start : kind state) :
    ∃ settled next fragments, expr.settle providers bindings state = .ok settled next ∧ kind next ∧
      settled.ending = .complete fragments ∧ expr.evaluate eager = .complete fragments := by
  have answered {bindings : Bindings} {state : σ} {name : QuantityName}
      (needed : expr.evaluate bindings.lookup = .needs name) (here : kind state) :
      ∃ value compute next, eager name = some value ∧ providers name = some compute ∧
        compute state = .ok value next ∧ kind next := by
    have ⟨occurs, unbound⟩ := evaluate_needs needed
    obtain ⟨value, known, compute, provided, tells⟩ :=
      told name occurs (Bindings.lookup_eq_none.mp unbound).1
    obtain ⟨next, said, kept⟩ := tells state here
    exact ⟨value, compute, next, known, provided, said, kept⟩
  fun_induction Expr.settle providers expr bindings state with
  | case1 bindings state fragments done =>
      exact ⟨_, state, fragments, rfl, start, rfl, evaluate_complete_of_within agree done⟩
  | case2 bindings state name needed unknown =>
      obtain ⟨value, compute, next, -, provided, -, -⟩ := answered needed start
      rw [unknown] at provided
      cases provided
  | case3 bindings state name needed compute provided value next computed ih =>
      obtain ⟨eagerly, other, after, known, again, said, kept⟩ := answered needed start
      rw [provided] at again
      cases again
      rw [computed] at said
      cases said
      have unbound := (evaluate_needs needed).2
      have grown : Scope.Within (bindings.extend name value).lookup eager := by
        intro third bound found
        rw [Bindings.lookup_extend unbound] at found
        by_cases same : third = name
        · rw [if_pos same] at found
          rw [same, known, found]
        · rw [if_neg same] at found
          exact agree third bound found
      exact ih grown kept
  | case4 bindings state name needed compute provided error next failed =>
      obtain ⟨value, other, after, -, again, said, -⟩ := answered needed start
      rw [provided] at again
      cases again
      rw [failed] at said
      cases said
  | case5 bindings state name needed compute provided halt next serious halted =>
      obtain ⟨value, other, after, -, again, said, -⟩ := answered needed start
      rw [provided] at again
      cases again
      rw [halted] at said
      cases said

end Settling

/-- Every registered quantity, bound to the value that `values` has for it. -/
def Registry.eager {π : Type} (registry : Registry π) (values : QuantityName → List Fragment) :
    Bindings :=
  ⟨none, registry.names.map fun name => (name, values name)⟩

theorem Registry.lookup_eager {π : Type} {registry : Registry π} {values : QuantityName → List Fragment}
    {name : QuantityName} (free : name.isReserved = false) (known : registry.contains name = true) :
    (registry.eager values).lookup name = some (values name) := by
  have listed : name ∈ registry.names := by
    rw [← List.contains_iff_mem, names, SortedMap.contains_keys]
    exact known
  have found : (registry.names.find? fun other => other = name) = some name := by
    cases located : registry.names.find? fun other => other = name with
    | none => simpa using List.find?_eq_none.mp located name listed
    | some other => simpa using List.find?_some located
  simp only [Bindings.lookup, free, Bool.false_eq_true, if_false, Bindings.value?, eager,
    List.find?_map, Function.comp_def, found, Option.map_some]

/-- The bindings that a pass starts with. -/
theorem Registry.within_eager {π : Type} (registry : Registry π) (values : QuantityName → List Fragment)
    (category : Category) :
    Scope.Within (Bindings.ofCategory category).lookup (registry.eager values).lookup := by
  intro name value known
  by_cases reserved : name.isReserved
  · simpa [Bindings.lookup, reserved] using known
  · simp [Bindings.lookup, reserved, Bindings.ofCategory, Bindings.value?] at known

/-- Queries that noting an update of `target` puts never break down. -/
structure ObjectModel.Answers {ω : Type} (objects : ObjectModel ω) (world : ω) (target : Target) :
    Prop where
  isValid : ∀ other message, objects.isValid world other ≠ .error message
  percent : ∀ message, objects.percent world target ≠ .error message

namespace Engine

variable {ω : Type} {engine : Engine ω} {target : Target} {context : Context} {key : FormatKey}
  {body : Expr}

theorem conclude_of_complete {fragments : List Fragment} {settled : Settled} {state : State ω}
    (answers : engine.objects.Answers state.world target)
    (done : settled.ending = .complete fragments) :
    ∃ next, engine.conclude target context key settled state =
      .ok ⟨fragments, settled.bindings, .presented, some key⟩ next := by
  cases ran : engine.conclude target context key settled state with
  | ok resolution next =>
      have told := engine.conclude_eq_ok ran
      rw [done] at told
      exact ⟨next, by rw [told]⟩
  | error halt next =>
      obtain ⟨message, -, ⟨other, broken⟩ | broken⟩ :=
        ObjectModel.recordProgress_eq_error (engine.conclude_eq_error ran)
      · exact absurd broken (answers.isValid other message)
      · exact absurd broken (answers.percent message)

/-- Where each quantity of its expression always says the same and no query breaks down, a pass presents
what the expression says when every registered quantity is known from the start. This is so in every
state of the engine, and so after any number of passes, as long as the world is one of the `usual` ones,
which the quantities do not leave. -/
theorem resolve_eq_eager {depth : Nat} {values : QuantityName → List Fragment} (usual : ω → Prop)
    (told : ∀ name ∈ (engine.evaluated context key body).references, name.isReserved = false →
      Providers.Tells (engine.fields (engine.host depth) target (innerContext context key) key
        (engine.evaluated context key body)) (fun state => usual state.world) name (values name))
    (answers : ∀ world, usual world → engine.objects.Answers world target) :
    ∃ fragments,
      (engine.evaluated context key body).evaluate (engine.registry.eager values).lookup =
          .complete fragments ∧
        ∀ state : State ω, usual state.world →
          engine.opening? target context state = some (key, body) →
          ∃ resolution next,
            (engine.host (depth + 1)).resolveAfresh target context state = .ok resolution next ∧
              resolution.outcome = .presented ∧ resolution.fragments = fragments := by
  have eagerly (name : QuantityName)
      (occurs : name ∈ (engine.evaluated context key body).references)
      (free : name.isReserved = false) :
      ∃ value, (engine.registry.eager values).lookup name = some value ∧
        Providers.Tells (engine.fields (engine.host depth) target (innerContext context key) key
          (engine.evaluated context key body)) (fun state => usual state.world) name value := by
    obtain ⟨compute, provided, tells⟩ := told name occurs free
    have known := engine.contains_of_isSome_fields (by rw [provided]; rfl)
    exact ⟨values name, Registry.lookup_eager free known, compute, provided, tells⟩
  obtain ⟨fragments, evaluated⟩ : ∃ fragments,
      (engine.evaluated context key body).evaluate (engine.registry.eager values).lookup =
        .complete fragments := by
    apply Expr.exists_complete
    intro name occurs unknown
    have free := (Bindings.lookup_eq_none.mp unknown).1
    obtain ⟨value, known, -⟩ := eagerly name occurs free
    rw [unknown] at known
    cases known
  refine ⟨fragments, evaluated, ?_⟩
  intro state here opens
  have begins : usual (started context { state with fallbacks := state.saved }).world := by
    rw [started_world]
    exact here
  have opened : engine.opening? target context { state with fallbacks := state.saved } =
      some (key, body) := by
    apply opening_of_world _ opens
    rfl
  obtain ⟨settled, between, presented, settling, still, ending, same⟩ :=
    Expr.settle_of_tells eagerly (engine.registry.within_eager values key.category) begins
  rw [evaluated] at same
  cases same
  obtain ⟨next, concluded⟩ : ∃ next,
      engine.conclude target (innerContext context key) key settled between =
        .ok ⟨fragments, settled.bindings, .presented, some key⟩ next :=
    conclude_of_complete (answers between.world still) ending
  have passed : (engine.host (depth + 1)).resolve target context
      { state with fallbacks := state.saved } =
        .ok ⟨fragments, settled.bindings, .presented, some key⟩ next := by
    refine (pass_of_opening opened).trans (contained_eq_ok.mpr (.inl ?_))
    rw [present_eq, bind_of_ok settling]
    exact concluded
  exact ⟨_, _, Host.resolveAfresh_eq_ok.mpr ⟨next, passed, rfl⟩, rfl, rfl⟩

section Example

def dialogKey : FormatKey := ⟨⟨"dialog"⟩, .standard, .unfocused⟩

def dialogBody : Expr := .concat (.or (.reference "label") (.reference "name")) (.reference "role")

/-- Says a text and counts its calls in the world. -/
def counted (fragments : List Fragment) : Provider Nat := fun _ _ => do
  modify fun state => { state with world := state.world + 1 }
  return fragments

def dialogWords (name : QuantityName) : List Fragment :=
  if name.text = "name" then [.text "Welcome"] else []

/-- Dialogs are presented behind their name, which is said again where they have no label. -/
def dialogs : Engine Nat where
  objects := { isValid := fun _ _ => .ok true, category := fun _ _ => .ok (some dialogKey.category) }
  table := (Table.empty.insert dialogKey dialogBody).setLead .standard .unfocused (.reference "name")
  registry :=
    ⟨⟨[(⟨"label"⟩, ⟨"label", counted []⟩), (⟨"name"⟩, ⟨"name", counted [.text "Welcome"]⟩)]⟩⟩
  settings := .standard

theorem references_dialogs : (dialogs.evaluated .standard dialogKey dialogBody).references =
    [⟨"name"⟩, ⟨"label"⟩, ⟨"name"⟩, ⟨"role"⟩] := rfl

theorem tells_dialogs (name : QuantityName)
    (occurs : name ∈ (dialogs.evaluated .standard dialogKey dialogBody).references)
    (free : name.isReserved = false) :
    Providers.Tells (dialogs.fields (dialogs.host 0) 7 (innerContext .standard dialogKey) dialogKey
      (dialogs.evaluated .standard dialogKey dialogBody)) (fun _ => True) name (dialogWords name) := by
  rw [references_dialogs] at occurs
  simp only [List.mem_cons, List.not_mem_nil, or_false] at occurs
  rcases occurs with rfl | rfl | rfl | rfl
  · exact ⟨_, rfl, fun state _ => ⟨_, rfl, trivial⟩⟩
  · exact ⟨_, rfl, fun state _ => ⟨_, rfl, trivial⟩⟩
  · exact ⟨_, rfl, fun state _ => ⟨_, rfl, trivial⟩⟩
  · cases free

theorem answers_dialogs (world : Nat) : dialogs.objects.Answers world 7 where
  isValid other message broken := by cases broken
  percent message broken := by cases broken

/-- After four calls of fields, a dialog is presented as ever. -/
theorem resolve_dialogs :
    (dialogs.evaluated .standard dialogKey dialogBody).evaluate
        (dialogs.registry.eager dialogWords).lookup =
      .complete [.text "Welcome", .text "Welcome"] ∧
    ∃ resolution next,
      (dialogs.host 1).resolveAfresh 7 .standard (.start .standard 0 4) = .ok resolution next ∧
        resolution.outcome = .presented ∧
        resolution.fragments = [.text "Welcome", .text "Welcome"] := by
  obtain ⟨fragments, evaluated, presents⟩ :=
    resolve_eq_eager (fun _ => True) tells_dialogs fun world _ => answers_dialogs world
  have words : (dialogs.evaluated .standard dialogKey dialogBody).evaluate
      (dialogs.registry.eager dialogWords).lookup =
        .complete [.text "Welcome", .text "Welcome"] := by
    decide +kernel
  rw [words] at evaluated
  cases evaluated
  exact ⟨words, presents (.start .standard 0 4) trivial (by decide +kernel)⟩

end Example

end Engine
end Narration
