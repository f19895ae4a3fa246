import Narration.Proofs.Announcement
import Narration.Proofs.Failure
/-! Resolutions as certificates. The main result: the bindings of a resolution reproduce the end of its
pass, and none of them is superfluous. -/
namespace Narration

variable {σ : Type}

namespace Bindings

variable {bindings : Bindings} {name other : QuantityName} {expr : Expr}

/-- The bindings in which `name` has no value. -/
def without (bindings : Bindings) (name : QuantityName) : Bindings :=
  { bindings with values := bindings.values.filter fun entry => entry.1 ≠ name }

/-- No value is superfluous: without it, the evaluation of `expr` stops at its name. -/
def AllNeeded (bindings : Bindings) (expr : Expr) : Prop :=
  ∀ name, (bindings.value? name).isSome →
    expr.evaluate (bindings.without name).lookup = .needs name

theorem value?_without (bindings : Bindings) (name other : QuantityName) :
    (bindings.without name).value? other = if other = name then none else bindings.value? other := by
  rw [value?, value?, without, List.find?_filter]
  by_cases same : other = name
  · subst same
    simp
  · rw [if_neg same]
    congr 2
    funext entry
    by_cases here : entry.1 = other <;> simp [here, same]

theorem lookup_without (free : name.isReserved = false) (bindings : Bindings) (other : QuantityName) :
    (bindings.without name).lookup other = if other = name then none else bindings.lookup other := by
  simp only [lookup, value?_without]
  by_cases same : other = name
  · simp [same, free]
  · simp [same]

theorem value?_extend (unbound : bindings.lookup name = none) (value : List Fragment)
    (apart : other ≠ name) : (bindings.extend name value).value? other = bindings.value? other := by
  rw [extend, bind_of_lookup_eq_none unbound, Option.getD_some, value?_append, if_neg (Ne.symm apart),
    Option.or_none]

/-- A quantity that is needed next can be bound without making another one superfluous. -/
theorem AllNeeded.extend (needed : expr.evaluate bindings.lookup = .needs name)
    (all : bindings.AllNeeded expr) (value : List Fragment) :
    (bindings.extend name value).AllNeeded expr := by
  have unbound := (Expr.evaluate_needs needed).2
  intro other bound
  by_cases same : other = name
  · subst same
    have before : ((bindings.extend other value).without other).lookup = bindings.lookup := by
      funext third
      rw [lookup_without (lookup_eq_none.mp unbound).1, lookup_extend unbound]
      by_cases here : third = other
      · rw [if_pos here, here, unbound]
      · rw [if_neg here, if_neg here]
    rw [before]
    exact needed
  · rw [value?_extend unbound value same] at bound
    have stops := all other bound
    have free := (lookup_eq_none.mp (Expr.evaluate_needs stops).2).1
    -- The evaluation without `other` stopped there before `name` had a value, and still does.
    apply Expr.evaluate_needs_of_within _ stops
    · rw [lookup_without free, if_pos rfl]
    · intro third known found
      rw [lookup_without free] at found ⊢
      by_cases here : third = other
      · rw [if_pos here] at found
        cases found
      · rw [if_neg here] at found ⊢
        exact lookup_within_extend unbound value third known found

end Bindings

/-- The restarts of an evaluation bind no quantity that it can do without. -/
theorem Expr.settle_allNeeded {providers : Providers σ} {expr : Expr} {bindings : Bindings}
    {state next : σ} {settled : Settled} (all : bindings.AllNeeded expr)
    (ran : expr.settle providers bindings state = .ok settled next) :
    settled.bindings.AllNeeded expr := by
  fun_induction Expr.settle providers expr bindings state with
  | case1 bindings state fragments done =>
      cases ran
      exact all
  | case2 bindings state name needed unknown =>
      cases ran
      exact all
  | case3 bindings state name needed compute provided value after computed ih =>
      exact ih (all.extend needed value) ran
  | case4 bindings state name needed compute provided error after failed =>
      cases ran
      exact all
  | case5 bindings state name needed compute provided halt after serious halted => cases ran

namespace Engine

variable {ω : Type} (engine : Engine ω)

/-- Evaluated against the bindings of a resolution, the expression of its pass ends with `evaluation`,
and all of these bindings are needed for that. The expression is the one that is stored for the key of
the resolution, in an outermost pass between the lead and the trail in use. -/
def Reproduces (context : Context) (resolution : Resolution) (evaluation : Evaluation) : Prop :=
  ∃ key body, resolution.key = some key ∧ engine.table.get? key = some body ∧
    (engine.evaluated context key body).evaluate resolution.bindings.lookup = evaluation ∧
    resolution.bindings.AllNeeded (engine.evaluated context key body)

/-- What a resolution in a given context has to show for its outcome. -/
def Certified (context : Context) (resolution : Resolution) : Prop :=
  match resolution.outcome with
  | .presented => engine.Reproduces context resolution (.complete resolution.fragments)
  | .unknownQuantity name =>
    engine.Reproduces context resolution (.needs name) ∧ engine.registry.contains name = false ∧
      resolution.fragments = []
  | .providerFault name =>
    engine.Reproduces context resolution (.needs name) ∧ engine.registry.contains name = true ∧
      resolution.fragments = []
  | .invalidTarget | .noCategory | .noExpression | .fault _ =>
    resolution.fragments = [] ∧ resolution.bindings = .empty

theorem certified_skipped {outcome : Outcome} (early : outcome.isEarly) (context : Context)
    (key : Option FormatKey) : engine.Certified context (.skipped outcome key) := by
  cases outcome with
  | presented => cases early
  | unknownQuantity name => cases early
  | providerFault name => cases early
  | invalidTarget => exact ⟨rfl, rfl⟩
  | noCategory => exact ⟨rfl, rfl⟩
  | noExpression => exact ⟨rfl, rfl⟩
  | fault message => exact ⟨rfl, rfl⟩

theorem certified_of_evaluates {below : Host ω} {target : Target} {context : Context}
    {state next : State ω} {resolution : Resolution} {key : FormatKey} {body : Expr}
    (evaluates : engine.Evaluates below target context state resolution next key body) :
    engine.Certified context resolution := by
  obtain ⟨settled, between, settling, concluded⟩ := engine.present_cases evaluates.ran
  have told := engine.conclude_eq_ok concluded
  have honest := Expr.settle_ending settling
  have none : (Bindings.ofCategory key.category).AllNeeded (engine.evaluated context key body) := by
    intro name bound
    cases bound
  have all := Expr.settle_allNeeded none settling
  cases ending : settled.ending with
  | complete fragments =>
      rw [ending] at told honest
      rw [told]
      exact ⟨key, body, rfl, evaluates.stored, honest, all⟩
  | unknown name =>
      rw [ending] at told honest
      rw [told]
      exact ⟨⟨key, body, rfl, evaluates.stored, honest.1, all⟩,
        engine.contains_of_fields_eq_none honest.2, rfl⟩
  | failed name =>
      rw [ending] at told honest
      rw [told]
      exact ⟨⟨key, body, rfl, evaluates.stored, honest.1, all⟩,
        engine.contains_of_isSome_fields honest.2, rfl⟩

/-- Every pass ends with a resolution that certifies itself, unless resolutions are nested without end.
If it was presented, its bindings give exactly its fragments; if a quantity was unknown or failed, its
bindings lack exactly this quantity; and in both cases the evaluation stops at each quantity whose value
is taken away. A pass that had nothing to evaluate or broke down has neither fragments nor bindings. -/
theorem pass_certified (below : Host ω) (target : Target) (context : Context) (state : State ω) :
    match engine.pass below target context state with
    | .ok resolution _ => engine.Certified context resolution
    | .error halt _ => halt = .tooDeep := by
  cases ran : engine.pass below target context state with
  | error halt next => exact engine.failsOnly_pass below target context state halt next ran
  | ok resolution next =>
      rcases engine.pass_cases ran with ⟨outcome, key, rfl, early⟩ | ⟨key, body, evaluates⟩
      · exact engine.certified_skipped early context key
      · exact engine.certified_of_evaluates evaluates

end Engine
end Narration
