import Narration.Proofs.Evaluation
/-! Which expressions can never say anything. The main result: these are the empty ones, and all others
say something as soon as each of their quantities does. -/
namespace Narration

/-- Whether a scope knows every quantity of an expression. -/
def Scope.Covers (scope : Scope) (expr : Expr) : Prop :=
  ∀ name ∈ expr.references, scope name ≠ none

/-- Whether in a scope every quantity of an expression says something. -/
def Scope.Voices (scope : Scope) (expr : Expr) : Prop :=
  ∀ name ∈ expr.references, ∃ first rest, scope name = some (first :: rest)

variable {scope : Scope} {expr : Expr}

theorem Scope.Voices.covers (voices : scope.Voices expr) : scope.Covers expr := by
  intro name occurs
  obtain ⟨first, rest, known⟩ := voices name occurs
  simp [known]

namespace Expr

theorem evaluate_of_isEmpty (empty : expr.isEmpty) (covers : scope.Covers expr) :
    expr.evaluate scope = .complete [] := by
  induction expr with
  | literal fragments =>
      have none : fragments = [] := List.isEmpty_iff.mp empty
      rw [none]
      rfl
  | ref name => cases empty
  | concat left right ihl ihr =>
      obtain ⟨atLeft, atRight⟩ : scope.Covers left ∧ scope.Covers right :=
        List.forall_mem_append.mp covers
      obtain ⟨emptyLeft, emptyRight⟩ := Bool.and_eq_true_iff.mp empty
      simp only [evaluate, ihl emptyLeft atLeft, ihr emptyRight atRight, Evaluation.andThen,
        List.append_nil]
  | or left right ihl ihr =>
      obtain ⟨atLeft, atRight⟩ : scope.Covers left ∧ scope.Covers right :=
        List.forall_mem_append.mp covers
      obtain ⟨emptyLeft, emptyRight⟩ := Bool.and_eq_true_iff.mp empty
      simp only [evaluate, ihl emptyLeft atLeft, ihr emptyRight atRight, Evaluation.andThen,
        List.isEmpty_nil, if_true]
  | and left right ihl ihr =>
      obtain ⟨atLeft, atRight⟩ : scope.Covers left ∧ scope.Covers right :=
        List.forall_mem_append.mp covers
      rcases Bool.or_eq_true_iff.mp empty with emptyLeft | emptyRight
      · simp only [evaluate, ihl emptyLeft atLeft, Evaluation.andThen, List.isEmpty_nil, if_true]
      · -- Whatever the left side says, nothing follows it.
        obtain ⟨said, done⟩ := exists_complete atLeft
        simp only [evaluate, done, ihr emptyRight atRight, Evaluation.andThen, ite_self]

theorem evaluate_of_not_isEmpty (nonempty : expr.isEmpty = false) (voices : scope.Voices expr) :
    ∃ first rest, expr.evaluate scope = .complete (first :: rest) := by
  induction expr with
  | literal fragments =>
      obtain ⟨first, rest, rfl⟩ := List.exists_cons_of_ne_nil (List.isEmpty_eq_false_iff.mp nonempty)
      exact ⟨first, rest, rfl⟩
  | ref name =>
      obtain ⟨first, rest, known⟩ := voices name (.head _)
      exact ⟨first, rest, by simp only [evaluate, known]⟩
  | concat left right ihl ihr =>
      obtain ⟨atLeft, atRight⟩ : scope.Voices left ∧ scope.Voices right :=
        List.forall_mem_append.mp voices
      obtain ⟨said, done⟩ := exists_complete atLeft.covers
      obtain ⟨told, ended⟩ := exists_complete atRight.covers
      simp only [evaluate, done, ended, Evaluation.andThen, Evaluation.complete.injEq]
      refine List.exists_cons_of_ne_nil fun silent => ?_
      obtain ⟨rfl, rfl⟩ := List.append_eq_nil_iff.mp silent
      rcases Bool.and_eq_false_iff.mp nonempty with here | there
      · obtain ⟨first, rest, speaks⟩ := ihl here atLeft
        cases done.symm.trans speaks
      · obtain ⟨first, rest, speaks⟩ := ihr there atRight
        cases ended.symm.trans speaks
  | or left right ihl ihr =>
      obtain ⟨atLeft, atRight⟩ : scope.Voices left ∧ scope.Voices right :=
        List.forall_mem_append.mp voices
      cases empty : left.isEmpty with
      | false =>
          obtain ⟨first, rest, speaks⟩ := ihl empty atLeft
          exact ⟨first, rest, by simp [evaluate, speaks, Evaluation.andThen]⟩
      | true =>
          have other : right.isEmpty = false := by simpa [isEmpty, empty] using nonempty
          obtain ⟨first, rest, speaks⟩ := ihr other atRight
          refine ⟨first, rest, ?_⟩
          simp only [evaluate, evaluate_of_isEmpty empty atLeft.covers, Evaluation.andThen,
            List.isEmpty_nil, if_true, speaks]
  | and left right ihl ihr =>
      obtain ⟨atLeft, atRight⟩ : scope.Voices left ∧ scope.Voices right :=
        List.forall_mem_append.mp voices
      obtain ⟨here, there⟩ := Bool.or_eq_false_iff.mp nonempty
      obtain ⟨_, _, speaks⟩ := ihl here atLeft
      obtain ⟨first, rest, further⟩ := ihr there atRight
      exact ⟨first, rest, by simp [evaluate, speaks, further, Evaluation.andThen]⟩

/-- An expression is empty exactly if it says nothing in any scope that knows its quantities. It is not
empty exactly if it says something in every scope in which all of its quantities do. -/
theorem isEmpty_iff_silent (expr : Expr) :
    (expr.isEmpty = true ↔ ∀ scope : Scope, scope.Covers expr → expr.evaluate scope = .complete []) ∧
    (expr.isEmpty = false ↔ ∀ scope : Scope, scope.Voices expr →
      ∃ first rest, expr.evaluate scope = .complete (first :: rest)) := by
  let pausing : Scope := fun _ => some [.pause]
  have voices : pausing.Voices expr := fun _ _ => ⟨.pause, [], rfl⟩
  constructor
  · refine ⟨fun empty scope => evaluate_of_isEmpty empty, fun silent => ?_⟩
    cases empty : expr.isEmpty with
    | true => rfl
    | false =>
        obtain ⟨first, rest, speaks⟩ := evaluate_of_not_isEmpty empty voices
        cases (silent pausing voices.covers).symm.trans speaks
  · refine ⟨fun nonempty scope => evaluate_of_not_isEmpty nonempty, fun speaks => ?_⟩
    cases empty : expr.isEmpty with
    | false => rfl
    | true =>
        obtain ⟨first, rest, said⟩ := speaks pausing voices
        cases (evaluate_of_isEmpty empty voices.covers).symm.trans said

end Expr
end Narration
