import Narration.Proofs.Marks
import Narration.Proofs.Sweep
/-! When a pass tells the description of its target again after it has stood in for something else. -/
namespace Narration

/-- A description that has not been used has left no mark. -/
theorem Fallbacks.get_of_unused {fallbacks : Fallbacks} (unused : fallbacks.descriptionUsed = false)
    (mark : Fallback) : fallbacks.get mark = false := by
  have all := List.any_eq_false.mp unused mark (by cases mark <;> decide)
  simpa using all

namespace Engine

open Fields

variable {ω : Type} (engine : Engine ω)

/-- The calls that a pass makes to settle its expression. -/
def calls (below : Host ω) (target : Target) (context : Context) (key : FormatKey)
    (expression : Expr) (state : State ω) : List (Call (State ω)) :=
  expression.calls (engine.fields below target context key expression) (.ofCategory key.category) state

theorem follow_calls (below : Host ω) (target : Target) (context : Context) (key : FormatKey)
    (expression : Expr) (state : State ω) :
    Follow (engine.fields below target context key expression) state
      (engine.calls below target context key expression state) :=
  expression.follow_calls _ _ _

/-- A call has told the description of the target of its pass because there was no name, or because
there were no labels. -/
inductive StoodIn (target : Target) (key : FormatKey) (call : Call (State ω)) : Fallback → Prop
  | name {text : String}
      (called : call.name = ⟨"name"⟩ ∨ call.name = ⟨"labelAndName"⟩ ∨
        call.name = ⟨"labelOrName"⟩ ∧
          ∃ label, engine.objects.label call.found.world target = .ok label ∧ textOf label = [])
      (back : FallsBack engine.objects call.found.world key.category target text)
      (told : .text text ∈ call.told) : StoodIn target key call .name
  | unrelatedLabels {text : String} (called : call.name = ⟨"unrelatedLabelsOrDescription"⟩)
      (unlabelled : ∃ labels, engine.objects.unrelatedLabels call.found.world target = .ok labels ∧
        ∀ label ∈ labels, label = "")
      (described : engine.objects.description call.found.world target = .ok (some text))
      (told : call.told = [.text text]) : StoodIn target key call .unrelatedLabels

variable {engine} {depth : Nat} {target : Target} {context : Context} {key : FormatKey}
  {expression : Expr} {state : State ω} {call : Call (State ω)}

section Provided

variable (standard : engine.IsStandard)
  (provided : ∃ compute, engine.fields (engine.host depth) target context key expression call.name =
    some compute ∧ compute call.found = call.result)
include standard provided

/-- What a call in a pass has run. -/
theorem IsStandard.ran_of_provided (field : Provider ω) (named : (call.name, field) ∈ quantities) :
    guarded (field target (engine.invocation (engine.host depth) context key expression)) call.found =
      call.result := by
  obtain ⟨compute, found, ran⟩ := provided
  obtain ⟨other, provided, rfl⟩ := fields_eq_some found
  rw [standard.provider?_eq_some.mpr named] at provided
  cases provided
  exact ran

theorem IsStandard.ok_of_provided (field : Provider ω) (named : (call.name, field) ∈ quantities)
    {value : List Fragment} {next : State ω} (result : call.result = .ok value next) :
    field target (engine.invocation (engine.host depth) context key expression) call.found =
      .ok value next := by
  have ran := standard.ran_of_provided provided field named
  rw [result] at ran
  exact guarded_eq_ok.mp ran

/-- A description that stood in for something leaves the mark for it. -/
theorem StoodIn.marks {mark : Fallback} {value : List Fragment} {next : State ω}
    (stood : engine.StoodIn target key call mark) (result : call.result = .ok value next) :
    next.fallbacks.get mark = true := by
  cases stood with
  | name called back told =>
      rcases called with called | called | ⟨called, label, labelled, unlabelled⟩
      · have ran := standard.ok_of_provided provided Fields.name (by simp [called, quantities_eq]) result
        rw [name_of_fallsBack back] at ran
        cases ran
        rfl
      · exact labelAndName_of_fallsBack back
          (standard.ok_of_provided provided labelAndName (by simp [called, quantities_eq]) result)
      · have ran := standard.ok_of_provided provided labelOrName (by simp [called, quantities_eq]) result
        obtain ⟨own, answered, ⟨told, -⟩ | ⟨-, named⟩⟩ := labelOrName_cases ran
        · cases labelled.symm.trans answered
          exact absurd unlabelled told
        · rw [name_of_fallsBack back] at named
          cases named
          rfl
  | unrelatedLabels called unlabelled described told =>
      have ran := standard.ok_of_provided provided unrelatedLabelsOrDescription
        (by simp [called, quantities_eq]) result
      rw [Call.told, result] at told
      rcases unrelatedLabelsOrDescription_cases unlabelled ran with ⟨silent, -⟩ | rfl
      · rw [silent] at told
        cases told
      · rfl

end Provided

/-- The mark of a description that stood in for something is lost to few quantities, as long as the
world stays as it was. -/
theorem StoodIn.loses (standard : engine.IsStandard) {mark : Fallback} {reset : Call (State ω)}
    {compute : Action (State ω) (List Fragment)} {value : List Fragment} {next : State ω}
    (stood : engine.StoodIn target key call mark)
    (found : engine.fields (engine.host depth) target context key expression reset.name = some compute)
    (ran : compute reset.found = .ok value next) (same : reset.found.world = call.found.world)
    (held : reset.found.fallbacks.get mark = true) (lost : next.fallbacks.get mark = false) :
    reset.name = ⟨"activeDescendant"⟩ ∨ mark = .name ∧ reset.name = ⟨"namedContainingPanel"⟩ ∧
      HasOwnPanel engine.objects call.found.world target := by
  obtain ⟨field, provided, rfl⟩ := fields_eq_some found
  have ran := guarded_eq_ok.mp ran
  cases stood with
  | name called back told =>
      rw [← same] at back ⊢
      rcases standard.loses_name provided ran back held lost with descendant | panel
      · exact .inl descendant
      · exact .inr ⟨rfl, panel⟩
  | unrelatedLabels called unlabelled described told =>
      rw [← same] at unlabelled
      exact .inl (standard.loses_unrelatedLabels provided ran unlabelled held lost)

/-- The description is told exactly where no mark is set and it adds something. -/
theorem told_iff_of_description
    (ran : guarded (description target (engine.invocation (engine.host depth) context key expression))
      call.found = call.result) :
    call.told ≠ [] ↔ call.found.fallbacks.descriptionUsed = false ∧
      ∃ text, Adds engine.objects call.found.world key.category
        ((engine.table.get? key).getD .empty) target text := by
  constructor
  · intro told
    cases result : call.result with
    | error halt next =>
        rw [Call.told, result] at told
        exact absurd rfl told
    | ok value next =>
        rw [Call.told, result] at told
        rw [result] at ran
        obtain ⟨unmarked, text, -, adds⟩ := adds_of_description (guarded_eq_ok.mp ran) told
        exact ⟨unmarked, text, adds⟩
  · rintro ⟨unmarked, text, adds⟩
    have described : description target
        (engine.invocation (engine.host depth) context key expression) call.found =
          .ok [.text text] call.found := description_of_adds unmarked adds
    rw [Call.told, ← ran, guarded_eq_ok.mpr described]
    exact List.cons_ne_nil _ _

section Repetition

variable {earlier between later : List (Call (State ω))} {first again : Call (State ω)}
  {mark : Fallback}

/-- A description that has stood in for something is told again by a later description quantity of the
same pass in one case only: a quantity between them loses the mark. This can be the presentation of the
active descendant, or the search for a panel that passes a panel which is not called by its description,
where the description stood in for the name. Apart from that, no mark may be left, and the description
has to add something. -/
theorem description_repeated_iff (standard : engine.IsStandard)
    (made : engine.calls (engine.host depth) target context key expression state =
      earlier ++ first :: (between ++ again :: later))
    (stood : engine.StoodIn target key first mark) (asked : again.name = ⟨"description"⟩) :
    again.told ≠ [] ↔
      (∃ reset ∈ between, reset.found.fallbacks.get mark = true ∧
        (finalState reset.result).fallbacks.get mark = false ∧
        (reset.name = ⟨"activeDescendant"⟩ ∨
          mark = .name ∧ reset.name = ⟨"namedContainingPanel"⟩ ∧
            HasOwnPanel engine.objects state.world target)) ∧
      again.found.fallbacks.descriptionUsed = false ∧
      ∃ text, Adds engine.objects state.world key.category ((engine.table.get? key).getD .empty)
        target text := by
  have follow := expression.follow_calls (engine.fields (engine.host depth) target context key expression)
    (.ofCategory key.category) state
  change Follow _ state (engine.calls (engine.host depth) target context key expression state) at follow
  rw [made] at follow
  have worlds : ∀ call ∈ earlier ++ first :: (between ++ again :: later),
      call.found.world = state.world :=
    follow.keeps fun _ _ found => standard.keeps_fields (fun _ _ => rfl) (fun _ _ => rfl) found
  have fromFirst := follow.of_append
  obtain ⟨value, next, result, onward⟩ := fromFirst.result (by simp)
  have marked := stood.marks standard fromFirst.provided result
  have ran := standard.ran_of_provided onward.of_append.provided description
    (by simp [asked, quantities_eq])
  rw [told_iff_of_description ran, worlds again (by simp)]
  constructor
  · rintro ⟨unmarked, adds⟩
    have gone : ¬ again.found.fallbacks.get mark = true := by
      rw [Fallbacks.get_of_unused unmarked mark]
      exact Bool.false_ne_true
    obtain ⟨reset, member, held, compute, told, after, found, result, computed, lost⟩ :=
      onward.exists_loss (fun state => state.fallbacks.get mark = true) marked gone
    have lost : after.fallbacks.get mark = false := Bool.eq_false_iff.mpr lost
    have atFirst : first.found.world = state.world := worlds first (by simp)
    have atReset : reset.found.world = state.world := worlds reset (by simp [member])
    have cause := stood.loses standard found computed (atReset.trans atFirst.symm) held lost
    rw [atFirst] at cause
    rw [← show finalState reset.result = after by rw [result]; rfl] at lost
    exact ⟨⟨reset, member, held, lost, cause⟩, unmarked, adds⟩
  · rintro ⟨-, unmarked, adds⟩
    exact ⟨unmarked, adds⟩

end Repetition

section Example

def buttonKey : FormatKey := ⟨⟨"push button"⟩, .standard, .unfocused⟩

def buttonExpression : Expr :=
  .sequence [.reference "name", .reference "namedContainingPanel", .reference "description"]

/-- A button that has a description but no name, in a panel that has a name. -/
def buttonInPanel : Engine Unit where
  objects :=
    { isValid := fun _ _ => .ok true
      category := fun _ target => .ok (some (if target = 1 then buttonKey.category else .panel))
      name := fun _ target => .ok (if target = 1 then none else some "Document")
      description := fun _ target => .ok (if target = 1 then some "Saves the file" else none)
      parent := fun _ target => .ok (if target = 1 then some 2 else none) }
  table := Table.empty.insert buttonKey buttonExpression
  registry := (Fields.registry : Except RegistryError (Registry (Provider Unit))).toOption.getD .empty
  settings := .standard

theorem isStandard_buttonInPanel : buttonInPanel.IsStandard :=
  isStandard_of_registry (by rw [buttonInPanel])

def buttonCalls : List (Call (State Unit)) :=
  buttonInPanel.calls (buttonInPanel.host 1) 1 .standard buttonKey buttonExpression (.start .standard 0 ())

theorem told_buttonCalls : buttonCalls.map (fun call => (call.name, call.told)) =
    [(⟨"name"⟩, [.text "Saves the file"]), (⟨"namedContainingPanel"⟩, [.text "Document"]),
      (⟨"description"⟩, [.text "Saves the file"])] := by
  rw [buttonCalls, calls, Expr.calls, Expr.settle_eq_settleOnce, isStandard_buttonInPanel.fields_eq,
    host_succ, isStandard_buttonInPanel.compute_eq, Fields.quantities_eq]
  decide +kernel

theorem exists_buttonCalls : ∃ first between again, buttonCalls = [first, between, again] ∧
    buttonInPanel.StoodIn 1 buttonKey first .name ∧ again.name = ⟨"description"⟩ ∧ again.told ≠ [] := by
  have all := told_buttonCalls
  simp only [List.map_eq_cons_iff, List.map_eq_nil_iff, Prod.mk.injEq] at all
  obtain ⟨first, _, split, ⟨named, told⟩, between, _, rfl, -, again, _, rfl, ⟨asked, repeated⟩, rfl⟩ := all
  have back : FallsBack buttonInPanel.objects first.found.world buttonKey.category 1 "Saves the file" :=
    ⟨by decide, ⟨none, rfl, rfl⟩, rfl, by decide⟩
  refine ⟨first, between, again, split, .name (.inl named) back ?_, asked, ?_⟩
  · rw [told]
    exact .head _
  · rw [repeated]
    exact List.cons_ne_nil _ _

/-- The name of the panel takes away the mark that the button's description has left. -/
theorem description_repeated_buttonInPanel : ∃ first between again,
    buttonCalls = [first, between, again] ∧ buttonInPanel.StoodIn 1 buttonKey first .name ∧
    again.name = ⟨"description"⟩ ∧
    (∃ reset ∈ [between], reset.found.fallbacks.get .name = true ∧
      (finalState reset.result).fallbacks.get .name = false ∧
      (reset.name = ⟨"activeDescendant"⟩ ∨ Fallback.name = .name ∧
        reset.name = ⟨"namedContainingPanel"⟩ ∧ HasOwnPanel buttonInPanel.objects () 1)) ∧
    again.found.fallbacks.descriptionUsed = false ∧
    ∃ text, Adds buttonInPanel.objects () buttonKey.category
      ((buttonInPanel.table.get? buttonKey).getD .empty) 1 text := by
  obtain ⟨first, between, again, split, stood, asked, repeated⟩ := exists_buttonCalls
  have made : buttonCalls = [] ++ first :: ([between] ++ again :: []) := split
  exact ⟨first, between, again, split, stood, asked,
    (description_repeated_iff isStandard_buttonInPanel made stood asked).mp repeated⟩

/-- It is not so that a description which stood in for something is never told again. -/
theorem not_description_once : ¬ ∀ (engine : Engine Unit), engine.IsStandard →
    ∀ (depth : Nat) (target : Target) (context : Context) (key : FormatKey) (expression : Expr)
      (state : State Unit) (earlier between later : List (Call (State Unit)))
      (first again : Call (State Unit)) (mark : Fallback),
      engine.calls (engine.host depth) target context key expression state =
        earlier ++ first :: (between ++ again :: later) →
      engine.StoodIn target key first mark → again.name = ⟨"description"⟩ → again.told = [] := by
  intro once
  obtain ⟨first, between, again, split, stood, asked, repeated⟩ := exists_buttonCalls
  exact repeated (once buttonInPanel isStandard_buttonInPanel 1 1 .standard buttonKey buttonExpression
    (.start .standard 0 ()) [] [between] [] first again .name split stood asked)

end Example

end Engine
end Narration
