import Narration.Proofs.StandardFields
import Narration.Proofs.Sweep
/-! Only the outermost pass puts its expression between a lead and a trail. The main result: for all
other passes it does not matter which leads and trails the table has. -/
namespace Narration

/-- Whether a pass in this context evaluates the expression of its key as it is stored. -/
def Context.IsBare (context : Context) : Prop :=
  context.recursing = true ∨ context.includeContext = false

/-- A change of the role does not bring back lead and trail. -/
theorem Context.IsBare.of_withoutRole {context inner : Context} (bare : context.IsBare)
    (same : inner.withoutRole = context.withoutRole) : inner.IsBare := by
  have recursing : inner.recursing = context.recursing := congrArg (·.recursing) same
  have included : inner.includeContext = context.includeContext :=
    congrArg (·.includeContext) same
  rwa [IsBare, recursing, included]

variable {ω : Type}

/-- Two hosts that do the same wherever no lead or trail is called for. -/
structure Host.AgreesOnBare (first second : Host ω) : Prop where
  resolve {context : Context} (bare : context.IsBare) (target : Target) :
    first.resolve target context = second.resolve target context
  compute {context : Context} (bare : context.IsBare) (mode : Mode) (expression : Expr) (name : String)
    (target : Target) :
    first.compute mode expression name target context =
      second.compute mode expression name target context

/-- No step of a routine leaves the contexts on which the hosts agree. -/
theorem SameRoutine.eq_of_agrees {rights : Rights} {objects : ObjectModel ω} {context : Context}
    {first second : Host ω} {α : Type} {left right : Action (State ω) α}
    (agrees : first.AgreesOnBare second) (bare : context.IsBare)
    (routine : SameRoutine rights objects context first second left right) : left = right := by
  induction routine with
  | pure value => rfl
  | bind before after same rest => rw [same, funext rest]
  | ask query => rfl
  | getFallbacks => rfl
  | setFallback allowed value => rfl
  | shouldPresent allowed target value => rfl
  | numberAndCount allowed target => rfl
  | compute allowed same mode expression target =>
      exact agrees.compute (bare.of_withoutRole same) mode expression _ target
  | resolve allowed same target => exact agrees.resolve (bare.of_withoutRole same) target

namespace Engine

variable {engine : Engine ω}

/-- The engine with another table. -/
def withTable (engine : Engine ω) (table : Table) : Engine ω := { engine with table }

variable {table : Table}

section Levels

variable (standard : engine.IsStandard) (same : ∀ key, table.get? key = engine.table.get? key)
  {first second : Host ω} (agrees : second.AgreesOnBare first) {context : Context}
  (bare : context.IsBare)
include standard same agrees bare

theorem IsStandard.field_withTable {name : QuantityName} {field : Provider ω}
    (provided : engine.registry.provider? name = some field) (target : Target) (key : FormatKey)
    (expression : Expr) :
    field target ((engine.withTable table).invocation second context key expression) =
      field target (engine.invocation first context key expression) := by
  have routine := Fields.isRoutine_of_mem (standard.provider?_eq_some.mp provided)
  have equal := (routine target
    ((engine.withTable table).invocation second context key expression) first).eq_of_agrees agrees bare
  rw [equal]
  simp only [invocation, withTable, same]

theorem IsStandard.present_withTable (target : Target) (key : FormatKey) (expression : Expr) :
    (engine.withTable table).present second target context key expression =
      engine.present first target context key expression := by
  have fields : (engine.withTable table).fields second target context key expression =
      engine.fields first target context key expression := by
    funext name
    simp only [fields]
    apply Option.map_congr
    intro field provided
    rw [standard.field_withTable same agrees bare provided]
  rw [present_eq, present_eq, fields]
  rfl

theorem IsStandard.pass_withTable (target : Target) :
    (engine.withTable table).pass second target context = engine.pass first target context := by
  have asked : (engine.withTable table).categoryOf target context = engine.categoryOf target context :=
    rfl
  unfold pass
  rw [asked]
  apply congrArg contained
  apply bind_congr
  intro alive
  cases alive with
  | false => rfl
  | true =>
      apply bind_congr
      intro category
      cases category with
      | none => rfl
      | some category =>
          have stored : (engine.withTable table).table.get? = engine.table.get? := funext same
          have keyed : (engine.withTable table).keyOf = engine.keyOf := rfl
          simp only [stored, keyed]
          cases (engine.table.get? (engine.keyOf context category)).filter (!·.isEmpty) with
          | none => rfl
          | some body =>
              cases recursing : context.recursing with
              | true =>
                  simp only [if_true]
                  exact standard.present_withTable same agrees (.inl rfl) target _ body
              | false =>
                  have excluded : context.includeContext = false := by
                    simpa [Context.IsBare, recursing] using bare
                  simp only [outermost, excluded, Bool.false_eq_true, if_false]
                  apply bind_congr
                  intro reset
                  exact standard.present_withTable same agrees (.inl rfl) target _ body

theorem IsStandard.compute_withTable (mode : Mode) (expression : Expr) (name : String)
    (target : Target) :
    (engine.withTable table).compute second mode expression name target context =
      engine.compute first mode expression name target context := by
  have asked : (engine.withTable table).categoryOf target context = engine.categoryOf target context :=
    rfl
  have listed : (engine.withTable table).registry = engine.registry := rfl
  unfold compute
  rw [asked, listed]
  cases provided : engine.registry.provider? (.normalize name) with
  | none => rfl
  | some field =>
      apply bind_congr
      intro category
      have inner : (context.withRole (category.getD .unknown)).IsBare := bare.of_withoutRole (by rfl)
      apply congrArg guarded
      exact standard.field_withTable same agrees inner provided target _ expression

end Levels

theorem IsStandard.agreesOnBare_host (standard : engine.IsStandard)
    (same : ∀ key, table.get? key = engine.table.get? key) (depth : Nat) :
    ((engine.withTable table).host depth).AgreesOnBare (engine.host depth) := by
  induction depth with
  | zero => exact ⟨fun _ _ => rfl, fun _ _ _ _ _ => rfl⟩
  | succ below ih =>
      exact ⟨standard.pass_withTable same ih, standard.compute_withTable same ih⟩

/-- The leads and trails of a table belong to outermost passes. A nested resolution, or one that asks to
leave them out, has the same result and leaves the same state for every table that has the same
expressions for categories, whatever its fields resolve and compute in turn. -/
theorem resolve_withTable (standard : engine.IsStandard)
    (same : ∀ key, table.get? key = engine.table.get? key) {context : Context}
    (bare : context.recursing = true ∨ context.includeContext = false) (depth : Nat)
    (target : Target) :
    ((engine.withTable table).host depth).resolve target context =
        (engine.host depth).resolve target context ∧
      ((engine.withTable table).host depth).resolveAfresh target context =
        (engine.host depth).resolveAfresh target context := by
  have nested : ((engine.withTable table).host depth).resolve target context =
      (engine.host depth).resolve target context :=
    (standard.agreesOnBare_host same depth).resolve bare target
  refine ⟨nested, ?_⟩
  rw [Host.resolveAfresh, Host.resolveAfresh, nested]

section Example

def listKey : FormatKey := ⟨⟨"list"⟩, .standard, .unfocused⟩

def itemKey : FormatKey := ⟨⟨"list item"⟩, .standard, .unfocused⟩

/-- A list that is presented as the item in it that has the focus. -/
def files : Engine Unit where
  objects :=
    { isValid := fun _ _ => .ok true
      category := fun _ target => .ok (some (if target = 1 then listKey else itemKey).category)
      name := fun _ _ => .ok (some "Readme")
      activeDescendant := fun _ _ => .ok (some 2) }
  table :=
    ⟨⟨[(.category listKey, .reference "activeDescendant"), (.category itemKey, .reference "name")]⟩, []⟩
  registry := (Fields.registry : Except RegistryError (Registry (Provider Unit))).toOption.getD .empty
  settings := .standard

/-- The table of `files` with a lead for all that is presented without focus. -/
def framed : Table :=
  ⟨⟨files.table.entries ++ [(.lead .standard .unfocused, .literal [.text "Window"])]⟩, []⟩

theorem isStandard_files : files.IsStandard :=
  isStandard_of_registry (by rw [files])

theorem get?_framed (key : FormatKey) : framed.get? key = files.table.get? key := by
  simp [framed, files, Table.get?, Table.at?, Table.entries, SortedMap.get?, List.find?_cons]

def unframed : Context := { Context.standard with includeContext := false }

theorem resolve_files : ∃ resolution next,
    (files.host 2).resolve 1 unframed (.start .standard 0 ()) = .ok resolution next ∧
      resolution.fragments = [.text "Readme"] := by
  have one : files.host 1 =
      ⟨fun target context => files.pass (files.host 0) target context, files.compute (files.host 0)⟩ := rfl
  have two : (files.host 2).resolve = files.pass (files.host 1) := rfl
  have checked : okWith (fun resolution _ => decide (resolution.fragments = [.text "Readme"]))
      ((files.host 2).resolve 1 unframed (.start .standard 0 ())) = true := by
    simp only [two, one, pass, present_eq, Expr.settle_eq_settleOnce, isStandard_files.fields_eq,
      Fields.quantities_eq]
    decide +kernel
  obtain ⟨resolution, next, ran, told⟩ := exists_ok_of_okWith checked
  exact ⟨resolution, next, ran, of_decide_eq_true told⟩

/-- The lead is said neither for the list nor for the item that is presented in its place. -/
theorem resolve_withTable_files : ∃ resolution next,
    ((files.withTable framed).host 2).resolve 1 unframed (.start .standard 0 ()) =
        .ok resolution next ∧
      resolution.fragments = [.text "Readme"] := by
  obtain ⟨resolution, next, ran, told⟩ := resolve_files
  have same := resolve_withTable isStandard_files get?_framed (.inr rfl : unframed.IsBare) 2 1
  exact ⟨resolution, next, by rw [same.1, ran], told⟩

end Example

end Engine
end Narration
