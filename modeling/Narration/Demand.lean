import Narration.Bindings
/-! Call-by-need: quantities are computed when the evaluation of an expression first reaches them. -/
namespace Narration

/-- Why a field says nothing. -/
inductive FieldError where
  | collaborator (message : String)
  | unknownQuantity (name : QuantityName)
  | panicked (message : String)
  | other (message : String)
  deriving DecidableEq, Repr

def FieldError.message : FieldError → String
  | .collaborator message => "Collaborator query failed: " ++ message
  | .unknownQuantity name => "Unknown quantity requested by provider: " ++ name.text
  | .panicked message => "Provider panicked: " ++ message
  | .other message => message

/-- What ends a computation before it has a result. -/
inductive Halt where
  /-- A field reports an error. -/
  | field (error : FieldError)
  /-- Something broke down. -/
  | fault (message : String)
  /-- Resolutions are nested more deeply than allowed. -/
  | tooDeep
  deriving DecidableEq, Repr

/-- A computation on a state, which it leaves as far as it got. -/
abbrev Action (σ α : Type) := EStateM Halt σ α

/-- How the evaluation of an expression ended. -/
inductive Ending where
  | complete (fragments : List Fragment)
  | unknown (name : QuantityName)
  | failed (name : QuantityName)
  deriving DecidableEq, Repr

structure Settled where
  bindings : Bindings
  ending : Ending
  deriving DecidableEq, Repr

theorem countP_lt_countP {α : Type} {p q : α → Bool} {l : List α} {x : α}
    (weaker : ∀ y, p y → q y) (member : x ∈ l) (here : q x) (gone : p x = false) :
    l.countP p < l.countP q := by
  induction l with
  | nil => simp at member
  | cons y l ih =>
    have mono : l.countP p ≤ l.countP q := List.countP_mono_left fun z _ => weaker z
    rcases List.mem_cons.mp member with rfl | inTail
    · simp [here, gone]
      omega
    · have inTail := ih inTail
      rw [List.countP_cons, List.countP_cons]
      by_cases hp : p y
      · rw [if_pos hp, if_pos (weaker y hp)]
        omega
      · rw [if_neg hp]
        omega

namespace Bindings

/-- The value is kept where `bind` allows it. -/
def extend (bindings : Bindings) (name : QuantityName) (value : List Fragment) : Bindings :=
  (bindings.bind name value).getD bindings

theorem lookup_extend {bindings : Bindings} {name : QuantityName}
    (unbound : bindings.lookup name = none) (value : List Fragment) (other : QuantityName) :
    (bindings.extend name value).lookup other =
      if other = name then some value else bindings.lookup other := by
  have ⟨free, absent⟩ := lookup_eq_none.mp unbound
  simp only [extend, bind_of_lookup_eq_none unbound, Option.getD_some]
  by_cases same : other = name
  · subst same
    simp [lookup, free, value?_append, absent]
  · have differ : ¬ name = other := fun h => same h.symm
    simp [lookup, value?_append, same, differ]

/-- The number of references that are not bound. -/
def unboundIn (bindings : Bindings) (expr : Expr) : Nat :=
  expr.references.countP fun name => (bindings.lookup name).isNone

theorem unboundIn_extend_lt {bindings : Bindings} {name : QuantityName} {expr : Expr}
    (needed : expr.evaluate bindings.lookup = .needs name) (value : List Fragment) :
    (bindings.extend name value).unboundIn expr < bindings.unboundIn expr := by
  have ⟨occurs, unbound⟩ := Expr.evaluate_needs needed
  refine countP_lt_countP (fun other => ?_) occurs (by simp [unbound]) ?_
  · rw [lookup_extend unbound]
    split <;> simp
  · simp [lookup_extend unbound]

end Bindings

/-- Evaluates `expr` and, as long as a quantity is missing, binds it to what its provider computes.
Each round binds one more of the names that occur in `expr`. -/
def Expr.settle {σ : Type} (provider? : QuantityName → Option (Action σ (List Fragment)))
    (expr : Expr) (bindings : Bindings) (state : σ) : EStateM.Result Halt σ Settled :=
  match _needed : expr.evaluate bindings.lookup with
  | .complete fragments => .ok ⟨bindings, .complete fragments⟩ state
  | .needs name =>
    match provider? name with
    | none => .ok ⟨bindings, .unknown name⟩ state
    | some compute =>
      match compute state with
      | .ok value next => expr.settle provider? (bindings.extend name value) next
      | .error (.field _) next => .ok ⟨bindings, .failed name⟩ next
      | .error halt next => .error halt next
termination_by bindings.unboundIn expr
decreasing_by exact Bindings.unboundIn_extend_lt _needed value

namespace Expr

section Settle

variable {σ : Type} {provider? : QuantityName → Option (Action σ (List Fragment))} {expr : Expr}
  {bindings : Bindings} {state next : σ} {name : QuantityName} {compute : Action σ (List Fragment)}

/-- One round. -/
theorem settle_eq :
    expr.settle provider? bindings state =
      match expr.evaluate bindings.lookup with
      | .complete fragments => .ok ⟨bindings, .complete fragments⟩ state
      | .needs name =>
        match provider? name with
        | none => .ok ⟨bindings, .unknown name⟩ state
        | some compute =>
          match compute state with
          | .ok value next => expr.settle provider? (bindings.extend name value) next
          | .error (.field _) next => .ok ⟨bindings, .failed name⟩ next
          | .error halt next => .error halt next := by
  rw [settle]
  split <;> rename_i evaluated <;> rw [evaluated]

theorem settle_of_complete {fragments : List Fragment}
    (done : expr.evaluate bindings.lookup = .complete fragments) :
    expr.settle provider? bindings state = .ok ⟨bindings, .complete fragments⟩ state := by
  rw [settle_eq, done]

theorem settle_of_unknown (needed : expr.evaluate bindings.lookup = .needs name)
    (unknown : provider? name = none) :
    expr.settle provider? bindings state = .ok ⟨bindings, .unknown name⟩ state := by
  rw [settle_eq, needed]
  simp only [unknown]

/-- Where `name` is computed, the next round knows its value. -/
theorem settle_of_computed (needed : expr.evaluate bindings.lookup = .needs name)
    (provided : provider? name = some compute) {value : List Fragment}
    (computed : compute state = .ok value next) :
    expr.settle provider? bindings state =
      expr.settle provider? (bindings.extend name value) next := by
  rw [settle_eq, needed]
  simp only [provided, computed]

theorem settle_of_failed (needed : expr.evaluate bindings.lookup = .needs name)
    (provided : provider? name = some compute) {error : FieldError}
    (failed : compute state = .error (.field error) next) :
    expr.settle provider? bindings state = .ok ⟨bindings, .failed name⟩ next := by
  rw [settle_eq, needed]
  simp only [provided, failed]

theorem settle_of_halted (needed : expr.evaluate bindings.lookup = .needs name)
    (provided : provider? name = some compute) {halt : Halt} (serious : ∀ error, halt ≠ .field error)
    (halted : compute state = .error halt next) :
    expr.settle provider? bindings state = .error halt next := by
  rw [settle_eq, needed]
  cases halt with
  | field error => exact absurd rfl (serious error)
  | fault message => simp only [provided, halted]
  | tooDeep => simp only [provided, halted]

end Settle

end Expr
end Narration
