import Narration.Expr.Evaluation
/-! Evaluation under several scopes. The main result: an evaluation depends only on the quantities of its
expression, and its result stays when more quantities become known. -/
namespace Narration

/-- Whether every quantity that `scope` knows has the same value in `wider`. -/
def Scope.Within (scope wider : Scope) : Prop :=
  ∀ name value, scope name = some value → wider name = some value

theorem Evaluation.andThen_eq_complete {evaluation : Evaluation}
    {next : List Fragment → Evaluation} {fragments : List Fragment} :
    evaluation.andThen next = .complete fragments ↔
      ∃ first, evaluation = .complete first ∧ next first = .complete fragments := by
  cases evaluation <;> simp [andThen]

theorem Expr.evaluate_complete_of_within {scope wider : Scope} (within : scope.Within wider)
    {expr : Expr} {fragments : List Fragment} (done : expr.evaluate scope = .complete fragments) :
    expr.evaluate wider = .complete fragments := by
  induction expr generalizing fragments with
  | literal value => exact done
  | ref name =>
      simp only [evaluate] at done ⊢
      cases known : scope name with
      | none => simp [known] at done
      | some value =>
          rw [within name value known]
          simpa [known] using done
  | concat left right ihl ihr =>
      simp only [evaluate, Evaluation.andThen_eq_complete] at done ⊢
      obtain ⟨first, atLeft, second, atRight, joined⟩ := done
      exact ⟨first, ihl atLeft, second, ihr atRight, joined⟩
  | or left right ihl ihr =>
      simp only [evaluate, Evaluation.andThen_eq_complete] at done ⊢
      obtain ⟨first, atLeft, chosen⟩ := done
      refine ⟨first, ihl atLeft, ?_⟩
      by_cases silent : first.isEmpty
      · rw [if_pos silent] at chosen ⊢
        exact ihr chosen
      · rwa [if_neg silent] at chosen ⊢
  | and left right ihl ihr =>
      simp only [evaluate, Evaluation.andThen_eq_complete] at done ⊢
      obtain ⟨first, atLeft, chosen⟩ := done
      refine ⟨first, ihl atLeft, ?_⟩
      by_cases silent : first.isEmpty
      · rwa [if_pos silent] at chosen ⊢
      · rw [if_neg silent] at chosen ⊢
        exact ihr chosen

/-- The quantity at which the evaluation stops stays the same as long as it is not known. -/
theorem Expr.evaluate_needs_of_within {scope wider : Scope} (within : scope.Within wider) {expr : Expr}
    {name : QuantityName} (needed : expr.evaluate scope = .needs name)
    (unknown : wider name = none) : expr.evaluate wider = .needs name := by
  induction expr with
  | literal value => cases needed
  | ref other =>
      have same : other = name := by
        simp only [evaluate] at needed
        split at needed
        · cases needed
        · exact Evaluation.needs.inj needed
      simp only [evaluate, same, unknown]
  | concat left right ihl ihr =>
      simp only [evaluate, Evaluation.andThen_eq_needs] at needed ⊢
      rcases needed with atLeft | ⟨first, atLeft, atRight | ⟨second, _, impossible⟩⟩
      · exact .inl (ihl atLeft)
      · exact .inr ⟨first, evaluate_complete_of_within within atLeft, .inl (ihr atRight)⟩
      · cases impossible
  | or left right ihl ihr =>
      simp only [evaluate, Evaluation.andThen_eq_needs] at needed ⊢
      rcases needed with atLeft | ⟨first, atLeft, atRight⟩
      · exact .inl (ihl atLeft)
      · refine .inr ⟨first, evaluate_complete_of_within within atLeft, ?_⟩
        by_cases silent : first.isEmpty
        · rw [if_pos silent] at atRight ⊢
          exact ihr atRight
        · rw [if_neg silent] at atRight
          cases atRight
  | and left right ihl ihr =>
      simp only [evaluate, Evaluation.andThen_eq_needs] at needed ⊢
      rcases needed with atLeft | ⟨first, atLeft, atRight⟩
      · exact .inl (ihl atLeft)
      · refine .inr ⟨first, evaluate_complete_of_within within atLeft, ?_⟩
        by_cases silent : first.isEmpty
        · rw [if_pos silent] at atRight
          cases atRight
        · rw [if_neg silent] at atRight ⊢
          exact ihr atRight

/-- An evaluation that knows every quantity of its expression does not stop. -/
theorem Expr.exists_complete {scope : Scope} {expr : Expr}
    (known : ∀ name ∈ expr.references, scope name ≠ none) :
    ∃ fragments, expr.evaluate scope = .complete fragments := by
  cases evaluated : expr.evaluate scope with
  | complete fragments => exact ⟨fragments, rfl⟩
  | needs name =>
      have ⟨occurs, unknown⟩ := evaluate_needs evaluated
      exact absurd unknown (known name occurs)

/-- Whether two scopes know the same of every quantity of an expression. -/
def Scope.AgreesOn (scope other : Scope) (expr : Expr) : Prop :=
  ∀ name ∈ expr.references, scope name = other name

theorem Expr.evaluate_of_agreesOn {scope other : Scope} {expr : Expr}
    (agrees : scope.AgreesOn other expr) : expr.evaluate scope = expr.evaluate other := by
  induction expr with
  | literal value => rfl
  | ref name =>
      have same : scope name = other name := agrees name (.head _)
      simp only [evaluate, same]
  | concat left right ihl ihr | or left right ihl ihr | and left right ihl ihr =>
      obtain ⟨atLeft, atRight⟩ : scope.AgreesOn other left ∧ scope.AgreesOn other right :=
        List.forall_mem_append.mp agrees
      simp only [evaluate, ihl atLeft, ihr atRight]

/-- In a wider scope an evaluation has the result that it has, or needs the quantity that it needs as
long as this one is not known. Beyond the quantities of its expression a scope does not matter. -/
theorem Expr.evaluate_local (expr : Expr) :
    (∀ scope wider : Scope, scope.Within wider →
      (∀ fragments, expr.evaluate scope = .complete fragments →
        expr.evaluate wider = .complete fragments) ∧
      ∀ name, expr.evaluate scope = .needs name →
        scope name = none ∧ name ∈ expr.references ∧
          (wider name = none → expr.evaluate wider = .needs name)) ∧
    ∀ scope other : Scope, scope.AgreesOn other expr →
      expr.evaluate scope = expr.evaluate other := by
  refine ⟨fun scope wider within => ⟨fun fragments done => ?_, fun name needed => ?_⟩,
    fun scope other agrees => evaluate_of_agreesOn agrees⟩
  · exact evaluate_complete_of_within within done
  · obtain ⟨occurs, unknown⟩ := evaluate_needs needed
    exact ⟨unknown, occurs, evaluate_needs_of_within within needed⟩

/-- What a switch is called, and its value. -/
def Expr.switch : Expr := .concat (.or (.ref ⟨"label"⟩) (.ref ⟨"name"⟩)) (.ref ⟨"value"⟩)

/-- A switch without a label, of which no more is known. -/
def Scope.unlabelled : Scope := fun name => if name = ⟨"label"⟩ then some [] else none

def Scope.switchedOn : Scope := fun name =>
  if name = ⟨"value"⟩ then some [.text "on"] else unlabelled name

def Scope.lampOn : Scope := fun name =>
  if name = ⟨"name"⟩ then some [.text "Lamp"] else switchedOn name

/-- All other quantities are pauses. -/
def Scope.pausing : Scope := fun name => (lampOn name).or (some [.pause])

theorem Expr.evaluate_local_switch :
    (switch.evaluate .unlabelled = .needs ⟨"name"⟩ ∧ Scope.unlabelled.Within .switchedOn ∧
      Scope.switchedOn ⟨"name"⟩ = none ∧ switch.evaluate .switchedOn = .needs ⟨"name"⟩) ∧
    (switch.evaluate .lampOn = .complete [.text "Lamp", .text "on"] ∧ Scope.lampOn.Within .pausing ∧
      switch.evaluate .pausing = .complete [.text "Lamp", .text "on"]) ∧
    Scope.lampOn.AgreesOn .pausing switch ∧ switch.evaluate .lampOn = switch.evaluate .pausing := by
  have first : Scope.unlabelled.Within .switchedOn := by
    intro name value known
    by_cases label : name = ⟨"label"⟩
    · subst label
      exact known
    · rw [Scope.unlabelled, if_neg label] at known
      cases known
  have last : Scope.lampOn.Within .pausing := by
    intro name value known
    rw [Scope.pausing, known]
    rfl
  have agrees : ∀ name ∈ switch.references, Scope.lampOn name = Scope.pausing name := by decide
  have needed : switch.evaluate .unlabelled = .needs ⟨"name"⟩ := rfl
  have done : switch.evaluate .lampOn = .complete [.text "Lamp", .text "on"] := rfl
  obtain ⟨monotone, agreeing⟩ := evaluate_local switch
  obtain ⟨-, -, still⟩ := (monotone _ _ first).2 _ needed
  exact ⟨⟨needed, first, rfl, still rfl⟩, ⟨done, last, (monotone _ _ last).1 _ done⟩,
    agrees, agreeing _ _ agrees⟩

end Narration
