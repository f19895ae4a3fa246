import Mathlib.Logic.Relation
import Narration.Expr.Evaluation
/-! Rewritings that change how an expression is grouped and which of its operands say nothing. The main
result: an expression and what it is rewritten to are alike. -/
namespace Narration

theorem Evaluation.andThen_assoc (evaluation : Evaluation) (next last : List Fragment → Evaluation) :
    (evaluation.andThen next).andThen last =
      evaluation.andThen fun fragments => (next fragments).andThen last := by
  cases evaluation <;> rfl

theorem Evaluation.andThen_complete (evaluation : Evaluation) : evaluation.andThen .complete = evaluation := by
  cases evaluation <;> rfl

namespace Expr

inductive Operator where
  | concat
  | or
  | and
  deriving DecidableEq, Repr

namespace Operator

def join : Operator → Expr → Expr → Expr
  | .concat => Expr.concat
  | .or => Expr.or
  | .and => Expr.and

/-- What becomes of the right operand once the left one says `first`. -/
def goOn (first : List Fragment) (right : Evaluation) : Operator → Evaluation
  | .concat => right.andThen fun second => .complete (first ++ second)
  | .or => if first.isEmpty then right else .complete first
  | .and => if first.isEmpty then .complete [] else right

theorem goOn_andThen (op : Operator) (first : List Fragment) (middle last : Evaluation) :
    ((op.goOn first middle).andThen fun second => op.goOn second last) =
      op.goOn first (middle.andThen fun second => op.goOn second last) := by
  cases op with
  | concat => cases middle <;> cases last <;> simp [goOn, Evaluation.andThen]
  | or => cases said : first.isEmpty <;> simp [goOn, Evaluation.andThen, said]
  | and => cases said : first.isEmpty <;> simp [goOn, Evaluation.andThen, said]

theorem goOn_silent {op : Operator} (neutral : op ≠ .and) (first : List Fragment) :
    op.goOn first (.complete []) = .complete first := by
  cases op with
  | concat => simp [goOn, Evaluation.andThen]
  | or =>
      cases first with
      | nil => rfl
      | cons fragment rest => rfl
  | and => exact absurd rfl neutral

theorem evaluate_join (op : Operator) (left right : Expr) (scope : Scope) :
    (op.join left right).evaluate scope =
      (left.evaluate scope).andThen fun first => op.goOn first (right.evaluate scope) := by
  cases op <;> rfl

theorem references_join (op : Operator) (left right : Expr) :
    (op.join left right).references = left.references ++ right.references := by
  cases op <;> rfl

theorem isEmpty_join (op : Operator) (left right : Expr) :
    (op.join left right).isEmpty =
      if op = .and then left.isEmpty || right.isEmpty else left.isEmpty && right.isEmpty := by
  cases op <;> rfl

end Operator

/-- One rewriting at any depth, from left to right: the first two operands of a chain are grouped, or an
operand that says nothing stands beside another one that is added or preferred to it. -/
inductive Rewrites : Expr → Expr → Prop
  | regroup (op : Operator) (first second third : Expr) :
      Rewrites (op.join (op.join first second) third) (op.join first (op.join second third))
  | dropLeft {op : Operator} (neutral : op ≠ .and) (expr : Expr) : Rewrites (op.join .empty expr) expr
  | dropRight {op : Operator} (neutral : op ≠ .and) (expr : Expr) : Rewrites (op.join expr .empty) expr
  | inLeft (op : Operator) {before after : Expr} (right : Expr) (step : Rewrites before after) :
      Rewrites (op.join before right) (op.join after right)
  | inRight (op : Operator) (left : Expr) {before after : Expr} (step : Rewrites before after) :
      Rewrites (op.join left before) (op.join left after)

/-- Two expressions that evaluate to the same in every scope, or stop at the same name, and of which no
field and no pass can tell one from the other. -/
structure Alike (first second : Expr) : Prop where
  evaluate : ∀ scope, first.evaluate scope = second.evaluate scope
  isEmpty : first.isEmpty = second.isEmpty
  references : first.references = second.references

namespace Alike

variable {first second third : Expr}

theorem refl (expr : Expr) : Alike expr expr := ⟨fun _ => rfl, rfl, rfl⟩

theorem symm (alike : Alike first second) : Alike second first :=
  ⟨fun scope => (alike.evaluate scope).symm, alike.isEmpty.symm, alike.references.symm⟩

theorem trans (alike : Alike first second) (further : Alike second third) : Alike first third :=
  ⟨fun scope => (alike.evaluate scope).trans (further.evaluate scope),
    alike.isEmpty.trans further.isEmpty, alike.references.trans further.references⟩

theorem join {left right left' right' : Expr} (alike : Alike left left') (also : Alike right right')
    (op : Operator) : Alike (op.join left right) (op.join left' right') := by
  refine ⟨fun scope => ?_, ?_, ?_⟩
  · rw [op.evaluate_join, op.evaluate_join, alike.evaluate, also.evaluate]
  · rw [op.isEmpty_join, op.isEmpty_join, alike.isEmpty, also.isEmpty]
  · rw [op.references_join, op.references_join, alike.references, also.references]

theorem regroup (op : Operator) (first second third : Expr) :
    Alike (op.join (op.join first second) third) (op.join first (op.join second third)) := by
  refine ⟨fun scope => ?_, ?_, ?_⟩
  · simp only [op.evaluate_join, Evaluation.andThen_assoc, op.goOn_andThen]
  · simp only [op.isEmpty_join]
    split
    · rw [Bool.or_assoc]
    · rw [Bool.and_assoc]
  · simp only [op.references_join, List.append_assoc]

theorem dropLeft {op : Operator} (neutral : op ≠ .and) (expr : Expr) :
    Alike (op.join .empty expr) expr := by
  refine ⟨fun scope => ?_, ?_, ?_⟩
  · rw [op.evaluate_join]
    cases op with
    | concat => exact Evaluation.andThen_complete _
    | or => rfl
    | and => exact absurd rfl neutral
  · rw [op.isEmpty_join, if_neg neutral]
    rfl
  · rw [op.references_join]
    rfl

theorem dropRight {op : Operator} (neutral : op ≠ .and) (expr : Expr) :
    Alike (op.join expr .empty) expr := by
  refine ⟨fun scope => ?_, ?_, ?_⟩
  · have silent : empty.evaluate scope = .complete [] := rfl
    simp only [op.evaluate_join, silent, Operator.goOn_silent neutral]
    exact Evaluation.andThen_complete _
  · rw [op.isEmpty_join, if_neg neutral]
    exact Bool.and_true _
  · rw [op.references_join]
    exact List.append_nil _

end Alike

theorem Rewrites.alike {before after : Expr} (step : Rewrites before after) : Alike before after := by
  induction step with
  | regroup op first second third => exact .regroup op first second third
  | dropLeft neutral expr => exact .dropLeft neutral expr
  | dropRight neutral expr => exact .dropRight neutral expr
  | inLeft op right step ih => exact ih.join (.refl right) op
  | inRight op left step ih => exact (Alike.refl left).join ih op

theorem alike_of_rewritings {expr rewritten : Expr} (rewritings : Relation.EqvGen Rewrites expr rewritten) :
    Alike expr rewritten := by
  induction rewritings with
  | rel before after step => exact step.alike
  | refl expr => exact .refl expr
  | symm before after _ ih => exact ih.symm
  | trans before middle after _ _ first second => exact first.trans second

end Expr
end Narration
