import Narration.Proofs.Gains
import Narration.Proofs.Throttle
/-! Why a pass suppresses the description of its target. The main result: exactly where the description
of some object, which need not be the target, has stood in for something and its mark was kept. -/
namespace Narration

theorem Fallbacks.eq_none_of_unused {fallbacks : Fallbacks} (unused : fallbacks.descriptionUsed = false) :
    fallbacks = .none := by
  have forName := get_of_unused unused .name
  have forUnrelatedLabels := get_of_unused unused .unrelatedLabels
  have forAlert := get_of_unused unused .alert
  cases fallbacks
  simp only [get] at forName forUnrelatedLabels forAlert
  rw [forName, forUnrelatedLabels, forAlert]
  rfl

theorem Fallbacks.descriptionUsed_iff {fallbacks : Fallbacks} :
    fallbacks.descriptionUsed = true ↔ ∃ mark, fallbacks.get mark = true := by
  constructor
  · intro used
    obtain ⟨mark, -, marked⟩ := List.any_eq_true.mp used
    exact ⟨mark, marked⟩
  · rintro ⟨mark, marked⟩
    exact List.any_eq_true.mpr ⟨mark, by cases mark <;> decide, marked⟩

section Calls

variable {ω : Type} {mark : Fallback}

/-- An evaluation that leaves a mark makes a call that does. -/
theorem Expr.exists_gain {providers : Providers (State ω)} {expr : Expr} {bindings : Bindings}
    {state : State ω} (gains : Gains mark (expr.settle providers bindings) state) :
    ∃ call ∈ expr.calls providers bindings state, ∃ compute, providers call.name = some compute ∧
      Gains mark compute call.found := by
  refine expr.calls_preserve (fun calls between => between.fallbacks.get mark = true →
    ∃ call ∈ calls, ∃ compute, providers call.name = some compute ∧ Gains mark compute call.found)
    ?_ bindings ?_ gains.after
  · intro name compute provided earlier between known after
    cases before : between.fallbacks.get mark with
    | true =>
        obtain ⟨call, member, gained⟩ := known before
        exact ⟨call, List.mem_append_left _ member, gained⟩
    | false =>
        exact ⟨⟨name, between, compute between⟩, List.mem_append_right _ (.head _), compute, provided,
          before, after⟩
  · intro marked
    cases gains.before.symm.trans marked

end Calls

namespace Engine

open Fields

variable {ω : Type} (engine : Engine ω)

/-- A call in a pass for `target` leaves `mark`, because the description of `owner` stands in for
something there. -/
inductive LeavesMark (owner : Target) :
    Fallback → Nat → Target → Context → FormatKey → Call (State ω) → Prop
  | name {depth : Nat} {target : Target} {context : Context} {key : FormatKey} {call : Call (State ω)}
      (called : call.name = ⟨"name"⟩ ∨ call.name = ⟨"labelAndName"⟩ ∨
        call.name = ⟨"labelOrName"⟩ ∧ SaysNothing (engine.objects.label call.found.world target))
      (named : NamedBy engine.objects call.found.world owner key.category target) :
      LeavesMark owner .name depth target context key call
  | cell {depth : Nat} {target : Target} {context : Context} {key : FormatKey} {call : Call (State ω)}
      (called : call.name = ⟨"labelAndName"⟩) (isCell : key.category = .tableCell)
      (named : CellNamedBy engine.objects call.found.world owner target) :
      LeavesMark owner .name depth target context key call
  | panel {depth : Nat} {target parent : Target} {context : Context} {key : FormatKey}
      {call : Call (State ω)} (called : call.name = ⟨"namedContainingPanel"⟩)
      (above : engine.objects.parent call.found.world target = .ok (some parent))
      (climbs : ClimbsTo engine.objects call.found.world owner [] parent) :
      LeavesMark owner .name depth target context key call
  | unrelatedLabels {depth : Nat} {context : Context} {key : FormatKey} {call : Call (State ω)}
      {text : String} (called : call.name = ⟨"unrelatedLabelsOrDescription"⟩)
      (unlabelled : ∃ labels, engine.objects.unrelatedLabels call.found.world owner = .ok labels ∧
        ∀ label ∈ labels, label = "")
      (unmarked : call.found.fallbacks.descriptionUsed = false)
      (adds : Adds engine.objects call.found.world key.category
        ((engine.table.get? key).getD .empty) owner text) :
      LeavesMark owner .unrelatedLabels depth owner context key call
  | nested {mark : Fallback} {depth : Nat} {target other : Target} {context : Context}
      {key inner : FormatKey} {body : Expr} {call cause : Call (State ω)}
      (called : call.name = ⟨"activeDescendant"⟩)
      (active : engine.objects.activeDescendant call.found.world target = .ok (some other))
      (apart : other ≠ target)
      (opens : engine.opening? other (engine.nestedContext context) call.found = some (inner, body))
      (made : cause ∈ engine.passCalls (engine.host depth) other (engine.nestedContext context) call.found)
      (leaves : LeavesMark owner mark depth other (engine.nestedContext context) inner cause) :
      LeavesMark owner mark (depth + 1) target context key call

/-- What a pass for `target` makes of the description in a given state. -/
def describe (depth : Nat) (target : Target) (context : Context) (key : FormatKey) (body : Expr) :
    Action (State ω) (List Fragment) :=
  guarded (description target (engine.invocation (engine.host depth) (innerContext context key) key
    (engine.evaluated context key body)))

variable {engine} {depth : Nat} {owner target : Target} {context : Context} {key : FormatKey}
  {body expression : Expr} {state : State ω} {mark : Fallback} {call : Call (State ω)}

theorem keeps_conclude {settled : Settled} :
    Keeps (fun state : State ω => state.fallbacks.get mark)
      (engine.conclude target context key settled) := by
  unfold conclude
  split
  · exact keeps_pure _
  · exact keeps_pure _
  · refine keeps_ite ?_ (keeps_pure _)
    exact (keeps_track _ fun _ _ => rfl).bind fun _ => keeps_pure _

/-- A nested pass that leaves a mark makes a call that does. -/
theorem exists_gain_of_pass {below : Host ω} (recursing : context.recursing = true)
    (gains : Gains mark (engine.pass below target context) state) :
    ∃ key body, engine.opening? target context state = some (key, body) ∧
      ∃ call ∈ engine.passCalls below target context state, ∃ compute,
        engine.fields below target (innerContext context key) key
          (engine.evaluated context key body) call.name = some compute ∧ Gains mark compute call.found := by
  obtain ⟨before, after⟩ := gains
  cases opens : engine.opening? target context state with
  | none =>
      obtain ⟨outcome, key, -, skipped⟩ := pass_of_closed below opens
      rw [skipped state rfl] at after
      cases before.symm.trans after
  | some opening =>
      obtain ⟨key, body⟩ := opening
      have same : started context state = state := if_pos recursing
      rw [pass_of_opening opens, finalState_contained, same, present_eq] at after
      have gains : Gains mark _ state := ⟨before, after⟩
      rcases gains.of_bind with settles | ⟨settled, between, -, concludes⟩
      · obtain ⟨call, made, gained⟩ := Expr.exists_gain settles
        refine ⟨key, body, rfl, call, ?_, gained⟩
        rw [passCalls_of_opening below opens, same]
        exact made
      · exact absurd concludes keeps_conclude.not_gains

section Standard

variable (standard : engine.IsStandard)
include standard

/-- Apart from the presentation of the active descendant, calls leave marks for the description of the
target, of a panel around it, or of the active descendant of a table cell. -/
theorem IsStandard.leavesMark_of_apart {field : Provider ω} {inner : Context}
    (provided : engine.registry.provider? call.name = some field)
    (apart : call.name ≠ ⟨"activeDescendant"⟩)
    (gains : Gains mark (field target (engine.invocation (engine.host depth) inner key expression))
      call.found) : ∃ owner, engine.LeavesMark owner mark depth target context key call := by
  have only {other : Fallback} (kept : mark ≠ other →
      Keeps (fun state : State ω => state.fallbacks.get mark)
        (field target (engine.invocation (engine.host depth) inner key expression))) : mark = other :=
    Decidable.not_not.mp fun apart => (kept apart).not_gains gains
  obtain ⟨called, found, result⟩ := call
  rcases isQuiet_or_isMarking (standard.provider?_eq_some.mp provided) with quiet | marking
  · exact absurd gains (standard.keeps_of_isQuiet quiet (IgnoresTracker.asking (fun _ _ => rfl) _) depth
      target inner key expression).not_gains
  cases marking with
  | name =>
      obtain rfl := only fun apart => (isRoutine_name (ignoresMark_get apart)
        (standard.keepsOn_name (ignoresMark_get apart) depth)).keeps target
      obtain ⟨owner, named⟩ := standard.exists_namedBy gains
      exact ⟨owner, .name (.inl rfl) named⟩
  | labelOrName =>
      obtain rfl := only fun apart => (isRoutine_labelOrName (ignoresMark_get apart)
        (standard.keepsOn_name (ignoresMark_get apart) depth)).keeps target
      obtain ⟨unlabelled, gains⟩ := gains_labelOrName gains
      obtain ⟨owner, named⟩ := standard.exists_namedBy gains
      exact ⟨owner, .name (.inr (.inr ⟨rfl, unlabelled⟩)) named⟩
  | labelAndName =>
      obtain rfl := only fun apart => (isRoutine_labelAndName (ignoresMark_get apart)
        (standard.keepsOn_name (ignoresMark_get apart) depth)).keeps target
      obtain ⟨owner, named | ⟨isCell, named⟩⟩ := standard.exists_labelled gains
      · exact ⟨owner, .name (.inr (.inl rfl)) named⟩
      · exact ⟨owner, .cell rfl isCell named⟩
  | unrelatedLabelsOrDescription =>
      obtain rfl := only fun apart =>
        (isRoutine_unrelatedLabelsOrDescription (ignoresMark_get apart)).keeps target
      obtain ⟨unlabelled, unmarked, text, adds⟩ := gains_unrelatedLabelsOrDescription gains
      exact ⟨target, .unrelatedLabels rfl unlabelled unmarked adds⟩
  | namedContainingPanel =>
      obtain rfl := only fun apart => (isRoutine_namedContainingPanel
        (standard.keepsOn_labelAndName (ignoresMark_get apart) depth)).keeps target
      obtain ⟨parent, above, gains⟩ := gains.of_ask
      cases parent with
      | none =>
          rw [climb_none] at gains
          exact absurd gains (not_gains_pure _)
      | some parent =>
          obtain ⟨owner, climbs⟩ := standard.exists_climbsTo gains
          exact ⟨owner, .panel rfl above climbs⟩
  | activeDescendant => exact absurd rfl apart

/-- A call that leaves a mark leaves it for the description of some object, however deep the pass is
nested that comes to this object. -/
theorem IsStandard.exists_leavesMark {field : Provider ω} {inner : Context}
    (provided : engine.registry.provider? call.name = some field)
    (below : inner.withoutRole = engine.nestedContext context)
    (gains : Gains mark (field target (engine.invocation (engine.host depth) inner key expression))
      call.found) : ∃ owner, engine.LeavesMark owner mark depth target context key call := by
  induction depth generalizing target context inner key expression call field with
  | zero =>
      by_cases presents : call.name = ⟨"activeDescendant"⟩
      · rw [presents] at provided
        cases standard.eq_activeDescendant provided
        obtain ⟨other, -, -, gains⟩ := gains_activeDescendant gains
        exact absurd gains (keeps_throw _).not_gains
      · exact standard.leavesMark_of_apart provided presents gains
  | succ depth ih =>
      by_cases presents : call.name = ⟨"activeDescendant"⟩
      · rw [presents] at provided
        cases standard.eq_activeDescendant provided
        obtain ⟨other, active, apart, gains⟩ := gains_activeDescendant gains
        have gains : Gains mark (engine.pass (engine.host depth) other inner.withoutRole) call.found :=
          gains
        rw [below] at gains
        obtain ⟨nested, body, opens, cause, made, compute, found, gains⟩ := exists_gain_of_pass rfl gains
        obtain ⟨field, provided, rfl⟩ := fields_eq_some found
        obtain ⟨owner, leaves⟩ := ih provided (withoutRole_innerContext opens) gains.of_guarded
        exact ⟨owner, .nested presents active apart opens made leaves⟩
      · exact standard.leavesMark_of_apart provided presents gains

/-- So do the calls of a pass. -/
theorem IsStandard.leavesMark_of_provided
    (opens : engine.opening? target context state = some (key, body))
    (provided : ∃ compute, engine.fields (engine.host depth) target (innerContext context key) key
      expression call.name = some compute ∧ compute call.found = call.result)
    (before : call.found.fallbacks.get mark = false)
    (after : (finalState call.result).fallbacks.get mark = true) :
    ∃ owner, engine.LeavesMark owner mark depth target context key call := by
  obtain ⟨compute, found, ran⟩ := provided
  obtain ⟨field, provided, rfl⟩ := fields_eq_some found
  rw [← ran] at after
  have gains := Gains.of_guarded ⟨before, after⟩
  exact standard.exists_leavesMark provided (withoutRole_innerContext opens) gains

end Standard

section Suppression

variable {earlier later : List (Call (State ω))} {again : Call (State ω)}

theorem LeavesMark.own_or_apart (leaves : engine.LeavesMark owner mark depth target context key call) :
    owner = target ∨ call.name = ⟨"namedContainingPanel"⟩ ∨ call.name = ⟨"activeDescendant"⟩ ∨
      key.category = .icon ∨ key.category = .tableCell := by
  cases leaves with
  | name called named =>
      by_cases icon : key.category = .icon
      · exact .inr (.inr (.inr (.inl icon)))
      · exact .inl (named.of_ne icon).1
  | cell called isCell named => exact .inr (.inr (.inr (.inr isCell)))
  | panel called above climbs => exact .inr (.inl called)
  | unrelatedLabels called unlabelled unmarked adds => exact .inl rfl
  | nested called active apart opens made leaves => exact .inr (.inr (.inl called))

/-- Where a pass comes to the description of its target, it says what it would say without any marks,
unless one is set. A mark is set exactly if a call before it left it where the description of some object
stood in for something, and all calls in between kept it. This object is the target itself, except where
the call went to a panel or an active descendant, or the target is an icon or a table cell. -/
theorem description_suppressed_iff (standard : engine.IsStandard)
    (outermost : context.recursing = false)
    (opens : engine.opening? target context state = some (key, body))
    (made : engine.passCalls (engine.host depth) target context state = earlier ++ again :: later)
    (asked : again.name = ⟨"description"⟩) :
    again.result =
        (if again.found.fallbacks.descriptionUsed then .ok [] again.found
        else engine.describe depth target context key body { again.found with fallbacks := .none }) ∧
      (again.found.fallbacks.descriptionUsed ↔
        ∃ mark owner before cause between, earlier = before ++ cause :: between ∧
          engine.LeavesMark owner mark depth target context key cause ∧
          (owner = target ∨ cause.name = ⟨"namedContainingPanel"⟩ ∨ cause.name = ⟨"activeDescendant"⟩ ∨
            key.category = .icon ∨ key.category = .tableCell) ∧
          cause.found.fallbacks.get mark = false ∧
          ∀ call ∈ cause :: between, (finalState call.result).fallbacks.get mark = true) := by
  rw [passCalls_of_opening _ opens] at made
  have follow := engine.follow_calls (engine.host depth) target (innerContext context key) key
    (engine.evaluated context key body) (started context state)
  rw [made] at follow
  have ran := standard.ran_of_provided follow.of_append.provided description
    (by simp [asked, quantities_eq])
  have unmarked (mark : Fallback) : ¬ (started context state).fallbacks.get mark = true := by
    rw [started, outermost]
    cases mark <;> exact Bool.false_ne_true
  constructor
  · rw [← ran]
    split
    · rename_i used
      exact guarded_eq_ok.mpr (description_of_marked used)
    · rename_i unused
      rw [← Fallbacks.eq_none_of_unused (Bool.eq_false_iff.mpr unused)]
      rfl
  rw [Fallbacks.descriptionUsed_iff]
  constructor
  · rintro ⟨mark, marked⟩
    obtain ⟨before, cause, between, rfl, unheld, kept⟩ :=
      (follow.gained_iff (fun state => state.fallbacks.get mark = true) (unmarked mark)).mp marked
    rw [List.append_assoc, List.cons_append] at follow
    have unheld : cause.found.fallbacks.get mark = false := Bool.eq_false_iff.mpr unheld
    obtain ⟨owner, leaves⟩ :=
      standard.leavesMark_of_provided opens follow.of_append.provided unheld (kept cause (.head _))
    exact ⟨mark, owner, before, cause, between, rfl, leaves, leaves.own_or_apart, unheld, kept⟩
  · rintro ⟨mark, owner, before, cause, between, split, -, -, unheld, kept⟩
    refine ⟨mark, (follow.gained_iff (fun state => state.fallbacks.get mark = true)
      (unmarked mark)).mpr ⟨before, cause, between, split, ?_, kept⟩⟩
    exact Bool.eq_false_iff.mp unheld

end Suppression

section Example

/-- A button that has a name and a description, in a panel that has a description but no name. -/
def buttonAmongTools : Engine Unit where
  objects :=
    { isValid := fun _ _ => .ok true
      category := fun _ target => .ok (some (if target = 1 then buttonKey.category else .panel))
      name := fun _ target => .ok (if target = 1 then some "Save" else none)
      description := fun _ target => .ok (some (if target = 1 then "Saves the file" else "Document tools"))
      parent := fun _ target => .ok (if target = 1 then some 2 else none) }
  table := Table.empty.insert buttonKey buttonExpression
  registry := (Fields.registry : Except RegistryError (Registry (Provider Unit))).toOption.getD .empty
  settings := .standard

theorem isStandard_buttonAmongTools : buttonAmongTools.IsStandard :=
  isStandard_of_registry (by rw [buttonAmongTools])

theorem opening_buttonAmongTools : buttonAmongTools.opening? 1 .standard (.start .standard 0 ()) =
    some (buttonKey, buttonExpression) := rfl

def toolCalls : List (Call (State Unit)) :=
  buttonAmongTools.passCalls (buttonAmongTools.host 1) 1 .standard (.start .standard 0 ())

theorem told_toolCalls :
    toolCalls.map (fun call => (call.name, call.told, call.found.fallbacks.descriptionUsed)) =
      [(⟨"name"⟩, [.text "Save"], false), (⟨"namedContainingPanel"⟩, [.text "Document tools"], false),
        (⟨"description"⟩, [], true)] := by
  rw [toolCalls, passCalls_of_opening _ opening_buttonAmongTools, calls, Expr.calls,
    Expr.settle_eq_settleOnce, isStandard_buttonAmongTools.fields_eq, host_succ,
    isStandard_buttonAmongTools.compute_eq, Fields.quantities_eq]
  decide +kernel

theorem exists_toolCalls : ∃ first between again, toolCalls = [first, between, again] ∧
    first.name = ⟨"name"⟩ ∧ between.name = ⟨"namedContainingPanel"⟩ ∧ again.name = ⟨"description"⟩ ∧
      again.told = [] ∧ again.found.fallbacks.descriptionUsed = true := by
  have all := told_toolCalls
  simp only [List.map_eq_cons_iff, List.map_eq_nil_iff, Prod.mk.injEq] at all
  obtain ⟨first, _, split, ⟨named, -, -⟩, between, _, rfl, ⟨called, -, -⟩, again, _, rfl,
    ⟨asked, silent, used⟩, rfl⟩ := all
  exact ⟨first, between, again, split, named, called, asked, silent, used⟩

/-- The description of the panel stands in for its name, and the button's description is suppressed. -/
theorem description_suppressed_amongTools : ∃ first between again,
    toolCalls = [first, between] ++ again :: [] ∧ again.result = .ok [] again.found ∧
      ∃ mark owner before cause rest, [first, between] = before ++ cause :: rest ∧
        buttonAmongTools.LeavesMark owner mark 1 1 .standard buttonKey cause ∧
        cause.found.fallbacks.get mark = false ∧
        ∀ call ∈ cause :: rest, (finalState call.result).fallbacks.get mark = true := by
  obtain ⟨first, between, again, split, -, -, asked, -, used⟩ := exists_toolCalls
  have made : toolCalls = [first, between] ++ again :: [] := split
  obtain ⟨result, suppressed⟩ := description_suppressed_iff isStandard_buttonAmongTools rfl
    opening_buttonAmongTools made asked
  rw [used] at result
  obtain ⟨mark, owner, before, cause, rest, parts, leaves, -, unmarked, kept⟩ := suppressed.mp used
  exact ⟨first, between, again, made, result, mark, owner, before, cause, rest, parts, leaves, unmarked,
    kept⟩

/-- Neither the name of the button nor the climb uses the description of the button. -/
theorem not_leavesMark_own {mark : Fallback} {call : Call (State Unit)}
    (called : call.name = ⟨"name"⟩ ∨ call.name = ⟨"namedContainingPanel"⟩) :
    ¬ buttonAmongTools.LeavesMark 1 mark 1 1 .standard buttonKey call := by
  intro leaves
  cases leaves with
  | name named stands =>
      obtain ⟨-, text, -, ⟨own, answered, silent⟩, -, -⟩ := stands.of_ne (by decide)
      cases answered
      cases silent
  | cell named isCell stands => exact absurd isCell (by decide)
  | panel named above climbs =>
      cases above
      cases climbs with
      | further fresh passed above climbs => cases above
  | unrelatedLabels named =>
      rw [named] at called
      exact absurd called (by decide)
  | nested named =>
      rw [named] at called
      exact absurd called (by decide)

/-- It is not so that only an own description which has stood in for something suppresses it. -/
theorem not_suppressed_by_own : ¬ ∀ (engine : Engine Unit), engine.IsStandard →
    ∀ (depth : Nat) (target : Target) (context : Context) (state : State Unit) (key : FormatKey)
      (body : Expr) (earlier later : List (Call (State Unit))) (again : Call (State Unit)),
      context.recursing = false → engine.opening? target context state = some (key, body) →
      engine.passCalls (engine.host depth) target context state = earlier ++ again :: later →
      again.name = ⟨"description"⟩ →
      (∀ cause ∈ earlier, ∀ mark, ¬ engine.LeavesMark target mark depth target context key cause) →
      ∀ text next, engine.describe depth target context key body
        { again.found with fallbacks := .none } = .ok text next → again.told = text := by
  intro own
  obtain ⟨first, between, again, split, named, called, asked, silent, -⟩ := exists_toolCalls
  have made : toolCalls = [first, between] ++ again :: [] := split
  have others : ∀ cause ∈ [first, between], ∀ mark,
      ¬ buttonAmongTools.LeavesMark 1 mark 1 1 .standard buttonKey cause := by
    intro cause member mark
    refine not_leavesMark_own ?_
    simp only [List.mem_cons, List.not_mem_nil, or_false] at member
    rcases member with rfl | rfl
    · exact .inl named
    · exact .inr called
  have told : buttonAmongTools.describe 1 1 .standard buttonKey buttonExpression
      { again.found with fallbacks := .none } =
        .ok [.text "Saves the file"] { again.found with fallbacks := .none } :=
    guarded_eq_ok.mpr (description_of_adds rfl ⟨by decide, rfl, by decide, some "Save", none, rfl, rfl,
      by decide +kernel⟩)
  have same := own buttonAmongTools isStandard_buttonAmongTools 1 1 .standard _ _ _ _ [] again rfl
    opening_buttonAmongTools made asked others _ _ told
  cases silent.symm.trans same

end Example

end Engine
end Narration
