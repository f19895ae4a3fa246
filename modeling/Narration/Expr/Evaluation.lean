import Narration.Expr
/-! Evaluation of an expression against the quantities that are known so far. -/
namespace Narration

/-- What is known about each quantity. -/
abbrev Scope := QuantityName → Option (List Fragment)

/-- The fragments, or the first quantity that has to be known to go on. -/
inductive Evaluation where
  | complete (fragments : List Fragment)
  | needs (name : QuantityName)
  deriving DecidableEq, Repr

namespace Evaluation

def isComplete : Evaluation → Bool
  | .complete _ => true
  | .needs _ => false

def andThen (evaluation : Evaluation) (next : List Fragment → Evaluation) : Evaluation :=
  match evaluation with
  | .complete fragments => next fragments
  | .needs name => .needs name

theorem andThen_eq_needs {evaluation : Evaluation} {next : List Fragment → Evaluation}
    {name : QuantityName} :
    evaluation.andThen next = .needs name ↔
      evaluation = .needs name ∨
        ∃ fragments, evaluation = .complete fragments ∧ next fragments = .needs name := by
  cases evaluation <;> simp [andThen]

end Evaluation

namespace Expr

/-- Goes through the expression once, from left to right, and looks at the right side of `or` and
`and` only where the left side leaves the result to it. -/
def evaluate (scope : Scope) : Expr → Evaluation
  | .literal fragments => .complete fragments
  | .ref name =>
    match scope name with
    | some fragments => .complete fragments
    | none => .needs name
  | .concat left right =>
    (left.evaluate scope).andThen fun first =>
      (right.evaluate scope).andThen fun second => .complete (first ++ second)
  | .or left right =>
    (left.evaluate scope).andThen fun first =>
      if first.isEmpty then right.evaluate scope else .complete first
  | .and left right =>
    (left.evaluate scope).andThen fun first =>
      if first.isEmpty then .complete [] else right.evaluate scope

/-- A quantity that is needed occurs in the expression and is not known. -/
theorem evaluate_needs {scope : Scope} {name : QuantityName} {expr : Expr}
    (needed : expr.evaluate scope = .needs name) :
    name ∈ expr.references ∧ scope name = none := by
  induction expr with
  | literal fragments => simp [evaluate] at needed
  | ref other =>
    simp only [evaluate] at needed
    split at needed
    · simp at needed
    · simp_all [references]
  | concat left right ihl ihr =>
    simp only [evaluate, Evaluation.andThen_eq_needs] at needed
    rcases needed with atLeft | ⟨_, _, atRight | ⟨_, _, impossible⟩⟩
    · simp [references, ihl atLeft]
    · simp [references, ihr atRight]
    · simp at impossible
  | or left right ihl ihr =>
    simp only [evaluate, Evaluation.andThen_eq_needs] at needed
    rcases needed with atLeft | ⟨_, _, atRight⟩
    · simp [references, ihl atLeft]
    · split at atRight
      · simp [references, ihr atRight]
      · simp at atRight
  | and left right ihl ihr =>
    simp only [evaluate, Evaluation.andThen_eq_needs] at needed
    rcases needed with atLeft | ⟨_, _, atRight⟩
    · simp [references, ihl atLeft]
    · split at atRight
      · simp at atRight
      · simp [references, ihr atRight]

end Expr
end Narration
