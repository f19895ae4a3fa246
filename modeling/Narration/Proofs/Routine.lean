import Narration.Fields
import Narration.Proofs.Action
/-! What the standard fields do, step by step, in terms of what their invocation offers. Every step that
turns to the engine again keeps the context, except for the role. -/
namespace Narration

variable {ω : Type}

/-- What a computation may do beyond putting queries and looking at the marks. -/
structure Rights where
  /-- The marks that it may set and clear. -/
  marks : Fallback → Prop
  /-- The quantities that it may have computed. -/
  quantities : String → Prop
  asksTracker : Prop
  presents : Prop

def Rights.all : Rights := ⟨fun _ => True, fun _ => True, True, True⟩

/-- Two computations that take the same steps over two engines. The steps are those that an invocation
in `context` offers. -/
inductive SameRoutine (rights : Rights) (objects : ObjectModel ω) (context : Context)
    (first second : Host ω) : {α : Type} → Action (State ω) α → Action (State ω) α → Prop
  | pure {α : Type} (value : α) :
      SameRoutine rights objects context first second (pure value) (pure value)
  | bind {α β : Type} {left right : Action (State ω) α} {leftRest rightRest : α → Action (State ω) β}
      (before : SameRoutine rights objects context first second left right)
      (after : ∀ value,
        SameRoutine rights objects context first second (leftRest value) (rightRest value)) :
      SameRoutine rights objects context first second (left >>= leftRest) (right >>= rightRest)
  | ask {α : Type} (query : ω → Query α) :
      SameRoutine rights objects context first second (ask query) (ask query)
  | getFallbacks : SameRoutine rights objects context first second getFallbacks getFallbacks
  | setFallback {mark : Fallback} (allowed : rights.marks mark) (value : Bool) :
      SameRoutine rights objects context first second (setFallback mark value) (setFallback mark value)
  | shouldPresent (allowed : rights.asksTracker) (target : Target) (value : UInt32) :
      SameRoutine rights objects context first second (objects.shouldPresent target value)
        (objects.shouldPresent target value)
  | numberAndCount (allowed : rights.asksTracker) (target : Target) :
      SameRoutine rights objects context first second (objects.numberAndCount target)
        (objects.numberAndCount target)
  | compute {name : String} {inner : Context} (allowed : rights.quantities name)
      (same : inner.withoutRole = context.withoutRole) (mode : Mode) (expression : Expr)
      (target : Target) :
      SameRoutine rights objects context first second
        (first.compute mode expression name target inner)
        (second.compute mode expression name target inner)
  | resolve {inner : Context} (allowed : rights.presents)
      (same : inner.withoutRole = context.withoutRole) (target : Target) :
      SameRoutine rights objects context first second (first.resolve target inner)
        (second.resolve target inner)

namespace SameRoutine

variable {rights : Rights} {objects : ObjectModel ω} {context : Context} {first second : Host ω}

theorem ite {α : Type} {condition : Prop} {here there : Decidable condition}
    {left right leftElse rightElse : Action (State ω) α}
    (yes : SameRoutine rights objects context first second left right)
    (no : SameRoutine rights objects context first second leftElse rightElse) :
    SameRoutine rights objects context first second
      (@ite _ condition here left leftElse) (@ite _ condition there right rightElse) := by
  by_cases holds : condition
  · rw [if_pos holds, if_pos holds]
    exact yes
  · rw [if_neg holds, if_neg holds]
    exact no

theorem callOn {name : String} (allowed : rights.quantities name) (invocation : Invocation ω)
    (second : Host ω) (other : Target) :
    SameRoutine rights objects invocation.context invocation.host second
      (invocation.callOn name other) ({ invocation with host := second }.callOn name other) :=
  .compute allowed (by rfl) _ _ _

end SameRoutine

namespace Fields

/-- Whether a field takes the same steps over every engine. -/
def IsRoutine (rights : Rights) (field : Provider ω) : Prop :=
  ∀ (target : Target) (invocation : Invocation ω) (second : Host ω),
    SameRoutine rights invocation.objects invocation.context invocation.host second
      (field target invocation) (field target { invocation with host := second })

variable {rights : Rights}

section Reading

theorem isRoutine_label : IsRoutine rights (label : Provider ω) := by
  intro target invocation second
  exact .bind (.ask _) fun _ => .pure _

theorem isRoutine_placeholderText : IsRoutine rights (placeholderText : Provider ω) := by
  intro target invocation second
  exact .bind (.ask _) fun _ => .bind (.ask _) fun _ => .pure _

theorem isRoutine_roleName : IsRoutine rights (roleName : Provider ω) := by
  intro target invocation second
  exact .ite (.pure _) (.bind (.ask _) fun _ => .pure _)

theorem isRoutine_substring : IsRoutine rights (substring : Provider ω) := by
  intro target invocation second
  unfold substring
  dsimp only
  cases invocation.context.range? with
  | none => exact .pure _
  | some range =>
      cases invocation.context.string with
      | some string => exact .pure _
      | none => exact .bind (.ask _) fun _ => .pure _

theorem isRoutine_displayedText : IsRoutine rights (displayedText : Provider ω) := by
  intro target invocation second
  refine .bind (isRoutine_substring target invocation second) fun shown => ?_
  exact .ite (.pure _) (.bind (.ask _) fun _ => .pure _)

theorem isRoutine_currentLineText : IsRoutine rights (currentLineText : Provider ω) := by
  intro target invocation second
  refine .bind (isRoutine_substring target invocation second) fun shown => ?_
  exact .ite (.pure _) (.bind (.ask _) fun _ => .pure _)

theorem isRoutine_value : IsRoutine rights (value : Provider ω) := by
  intro target invocation second
  exact .bind (.ask _) fun _ => .pure _

theorem isRoutine_applicationName : IsRoutine rights (applicationName : Provider ω) := by
  intro target invocation second
  refine .bind (.ask _) fun application => ?_
  cases application with
  | none => exact .pure _
  | some application => exact .bind (.ask _) fun _ => .pure _

theorem isRoutine_description : IsRoutine rights (description : Provider ω) := by
  intro target invocation second
  unfold description
  refine .bind .getFallbacks fun marks => .ite (.pure _) (.ite (.pure _) ?_)
  refine .bind (.ask _) fun described => ?_
  cases described.filter (· ≠ "") with
  | none => exact .pure _
  | some text =>
      refine .ite (.bind (.ask _) fun _ => ?_) (.bind (.ask _) fun _ => ?_)
      all_goals exact .bind (.ask _) fun _ => .ite (.pure _) (.pure _)

end Reading

section Progress

variable (asks : rights.asksTracker)
include asks

theorem isRoutine_progressBarValue : IsRoutine rights (progressBarValue : Provider ω) := by
  intro target invocation second
  refine .bind (.ask _) fun percent => ?_
  cases percent with
  | none => exact .pure _
  | some percent =>
      refine .ite (.bind (.shouldPresent asks _ _) fun due => ?_) (.pure _)
      exact .ite (.pure _) (.pure _)

theorem isRoutine_progressBarIndex : IsRoutine rights (progressBarIndex : Provider ω) := by
  intro target invocation second
  refine .ite (.pure _) (.bind (.numberAndCount asks _) fun counted => ?_)
  exact .ite (.pure _) (.pure _)

end Progress

section Naming

variable (marks : rights.marks .name) (named : rights.quantities "name")
include marks named

theorem isRoutine_name : IsRoutine rights (name : Provider ω) := by
  intro target invocation second
  refine .bind (.setFallback marks _) fun _ => .bind (.ask _) fun own => ?_
  refine .ite (.pure _) (.ite (.bind (.ask _) fun described => .ite ?_ ?_) ?_)
  · exact .bind (.setFallback marks _) fun _ => .pure _
  -- With and without a look at the description, what is left is the name of the panel around an icon.
  all_goals
    refine .ite (.bind (.ask _) fun parent => ?_) (.pure _)
    cases parent with
    | none => exact .pure _
    | some parent => exact .bind (.ask _) fun _ => .ite (.callOn named _ _ _) (.pure _)

theorem isRoutine_labelOrName : IsRoutine rights (labelOrName : Provider ω) := by
  intro target invocation second
  refine .bind (isRoutine_label target invocation second) fun label => ?_
  exact .ite (.pure _) (isRoutine_name marks named target invocation second)

theorem isRoutine_labelAndName : IsRoutine rights (labelAndName : Provider ω) := by
  intro target invocation second
  refine .bind (isRoutine_label target invocation second) fun label => ?_
  refine .bind (isRoutine_name marks named target invocation second) fun name => ?_
  refine .ite (.bind (.ask _) fun descendant => ?_) (.pure _)
  cases descendant with
  | none => exact .pure _
  | some descendant => exact .bind (.callOn named _ _ _) fun _ => .pure _

end Naming

theorem isRoutine_unrelatedLabelsOrDescription (marks : rights.marks .unrelatedLabels) :
    IsRoutine rights (unrelatedLabelsOrDescription : Provider ω) := by
  intro target invocation second
  refine .bind (.ask _) fun labels => .ite ?_ ?_
  · exact .bind (.setFallback marks _) fun _ => .pure _
  · refine .bind (isRoutine_description target invocation second) fun description => ?_
    exact .ite (.bind (.setFallback marks _) fun _ => .pure _) (.pure _)

section Related

theorem sameRoutine_climb (named : rights.quantities "labelAndName") (invocation : Invocation ω)
    (second : Host ω) (steps : Nat) (visited : List Target) (current : Option Target) :
    SameRoutine rights invocation.objects invocation.context invocation.host second
      (climb invocation steps visited current)
      (climb { invocation with host := second } steps visited current) := by
  induction steps generalizing visited current with
  | zero => exact .pure _
  | succ steps ih =>
      cases current with
      | none => exact .pure _
      | some current =>
          have further := SameRoutine.bind (.ask (invocation.objects.parent · current))
            fun parent => ih (current :: visited) parent
          refine .ite (.pure _) (.bind (.ask _) fun category => .ite ?_ further)
          exact .bind (.callOn named _ _ _) fun label => .ite (.pure _) further

theorem isRoutine_namedContainingPanel (named : rights.quantities "labelAndName") :
    IsRoutine rights (namedContainingPanel : Provider ω) := by
  intro target invocation second
  exact .bind (.ask _) fun _ => sameRoutine_climb named invocation second _ _ _

theorem sameRoutine_realActiveDescendant (target : Target) (invocation : Invocation ω)
    (second : Host ω) :
    SameRoutine rights invocation.objects invocation.context invocation.host second
      (realActiveDescendant target invocation)
      (realActiveDescendant target { invocation with host := second }) :=
  .bind (.ask _) fun _ => .pure _

theorem isRoutine_realActiveDescendantDisplayedText (shown : rights.quantities "displayedText") :
    IsRoutine rights (realActiveDescendantDisplayedText : Provider ω) := by
  intro target invocation second
  refine .bind (sameRoutine_realActiveDescendant target invocation second) fun descendant => ?_
  exact .callOn shown _ _ _

theorem isRoutine_realActiveDescendantRoleName (called : rights.quantities "roleName") :
    IsRoutine rights (realActiveDescendantRoleName : Provider ω) := by
  intro target invocation second
  refine .bind (sameRoutine_realActiveDescendant target invocation second) fun descendant => ?_
  exact .bind (.ask _) fun _ => .compute called (by rfl) _ _ _

theorem isRoutine_activeDescendant (presents : rights.presents) :
    IsRoutine rights (activeDescendant : Provider ω) := by
  intro target invocation second
  refine .bind (.ask _) fun descendant => ?_
  cases descendant with
  | none => exact .pure _
  | some descendant => exact .ite (.pure _) (.bind (.resolve presents (by rfl) _) fun _ => .pure _)

end Related

end Fields
end Narration
