import Narration.Proofs.Rewriting
import Narration.Proofs.SiteOrder
import Narration.Proofs.Wrapping
/-! Passes over expressions that are alike. The main result: an expression that is stored in the place of one
that it is rewritten to is presented in the same way, with the same calls of fields in the same order. -/
namespace Narration

variable {ω : Type}

/-- Settling reads an expression only by evaluating it. -/
theorem Expr.settle_congr {σ : Type} {first second : Expr}
    (same : ∀ scope, first.evaluate scope = second.evaluate scope)
    (providers : QuantityName → Option (Action σ (List Fragment))) (bindings : Bindings) (state : σ) :
    first.settle providers bindings state = second.settle providers bindings state := by
  fun_induction Expr.settle providers first bindings state with
  | case1 bindings state fragments done =>
      exact (settle_of_complete ((same _).symm.trans done)).symm
  | case2 bindings state name needed unknown =>
      exact (settle_of_unknown ((same _).symm.trans needed) unknown).symm
  | case3 bindings state name needed compute provided value next computed ih =>
      rw [ih, settle_of_computed ((same _).symm.trans needed) provided computed]
  | case4 bindings state name needed compute provided error next failed =>
      exact (settle_of_failed ((same _).symm.trans needed) provided failed).symm
  | case5 bindings state name needed compute provided halt next serious halted =>
      exact (settle_of_halted ((same _).symm.trans needed) provided serious halted).symm

theorem Expr.Alike.wrap {lead lead' trail trail' : Option Expr} {body body' : Expr}
    (leads : Option.Rel Alike lead lead') (bodies : Alike body body')
    (trails : Option.Rel Alike trail trail') :
    Alike (.wrap lead body trail) (.wrap lead' body' trail') := by
  have led : Alike (.wrap lead body none) (.wrap lead' body' none) := by
    cases leads with
    | none => exact bodies
    | some alike => exact alike.join bodies .concat
  cases trails with
  | none => exact led
  | some alike => exact led.join alike .concat

theorem optionRel_filter {α : Type} {related : α → α → Prop} {keeps : α → Bool}
    (same : ∀ first second, related first second → keeps first = keeps second) {first second : Option α}
    (both : Option.Rel related first second) :
    Option.Rel related (first.filter keeps) (second.filter keeps) := by
  cases both with
  | none => exact .none
  | some holds =>
      rw [Option.filter_some, Option.filter_some, same _ _ holds]
      split
      · exact .some holds
      · exact .none

theorem Expr.references_getD {first second : Option Expr} (both : Option.Rel Alike first second) :
    (first.getD .empty).references = (second.getD .empty).references := by
  cases both with
  | none => rfl
  | some alike => exact alike.references

/-- Two tables with expressions that are alike at the same sites. -/
def Table.Alike (first second : Table) : Prop :=
  ∀ site, Option.Rel Expr.Alike (first.at? site) (second.at? site)

namespace Table.Alike

variable {first second : Table}

theorem leadFor? (alike : first.Alike second) (context : Context) :
    Option.Rel Expr.Alike (first.leadFor? context) (second.leadFor? context) := by
  unfold Table.leadFor?
  cases context.mode with
  | none => exact .none
  | some mode => exact alike _

theorem trailFor? (alike : first.Alike second) (context : Context) :
    Option.Rel Expr.Alike (first.trailFor? context) (second.trailFor? context) := by
  unfold Table.trailFor?
  cases context.mode with
  | none => exact .none
  | some mode => exact alike _

theorem bodies (alike : first.Alike second) (key : FormatKey) :
    Option.Rel Expr.Alike ((first.get? key).filter (!·.isEmpty)) ((second.get? key).filter (!·.isEmpty)) :=
  optionRel_filter (fun _ _ same => by rw [same.isEmpty]) (alike (.category key))

/-- An expression in the place of one that is alike. -/
theorem set {table : Table} {site : Site} {expr other : Expr} (stored : table.at? site = some expr)
    (alike : Expr.Alike expr other) : (table.set site other).Alike table := by
  intro place
  have found : (table.set site other).at? place = if site = place then some other else table.at? place :=
    SortedMap.get?_insert table.sites site place other
  rw [found]
  by_cases here : site = place
  · rw [if_pos here, ← here, stored]
    exact .some alike.symm
  · rw [if_neg here]
    cases table.at? place with
    | none => exact .none
    | some expr => exact .some (.refl expr)

end Table.Alike

/-- Whether a host computes quantities in the same way for all passes of a mode. -/
def Host.IgnoresExpressions (host : Host ω) : Prop :=
  ∀ mode first second name target context,
    host.compute mode first name target context = host.compute mode second name target context

/-- A host that computes quantities without knowing the expression. -/
def Host.uniform (resolve : Target → Context → Action (State ω) Resolution)
    (answer : Mode → String → Target → Context → Action (State ω) (List Fragment)) : Host ω :=
  ⟨resolve, fun mode _ => answer mode⟩

theorem Host.IgnoresExpressions.eq_uniform {host : Host ω} (ignores : host.IgnoresExpressions) :
    host = .uniform host.resolve fun mode => host.compute mode .empty := by
  have same : host.compute = fun mode _ => host.compute mode .empty := by
    funext mode expression name target context
    exact ignores mode expression .empty name target context
  exact congrArg (Host.mk host.resolve) same

namespace Fields

/-- Whether a field tells expressions apart only by the references of the one that is stored. -/
def SeesReferences (field : Provider ω) : Prop :=
  ∀ (target : Target) (invocation : Invocation ω) (expression : Expr) (stored : Option Expr),
    invocation.host.IgnoresExpressions →
    (stored.getD .empty).references = (invocation.formatExpression.getD .empty).references →
    field target { invocation with expression, formatExpression := stored } = field target invocation

/-- A field that does not look at the expressions itself sees nothing of them. -/
theorem seesReferences_of_blind {field : Provider ω}
    (blind : ∀ target objects resolve answer context key first second stored other,
      field target ⟨objects, .uniform resolve answer, context, key, first, stored⟩ =
        field target ⟨objects, .uniform resolve answer, context, key, second, other⟩) :
    SeesReferences field := by
  intro target invocation expression stored ignores _
  obtain ⟨objects, host, context, key, shown, formatExpression⟩ := invocation
  have uniform : host = .uniform host.resolve _ := Host.IgnoresExpressions.eq_uniform ignores
  rw [uniform]
  exact blind target objects _ _ context key expression shown stored formatExpression

theorem addsTo_congr {first second : Expr} (same : first.references = second.references) :
    addsTo first = addsTo second := by
  have mentions (name : String) : first.mentions name = second.mentions name := by
    rw [Expr.mentions, Expr.mentions, same]
  funext label name description
  rw [addsTo, addsTo, mentions, mentions]

theorem seesReferences_description : SeesReferences (description : Provider ω) := by
  intro target invocation expression stored _ same
  have adds := addsTo_congr same
  unfold description
  simp only [adds]
  rfl

theorem seesReferences_unrelatedLabelsOrDescription :
    SeesReferences (unrelatedLabelsOrDescription : Provider ω) := by
  intro target invocation expression stored ignores same
  unfold unrelatedLabelsOrDescription
  simp only [seesReferences_description target invocation expression stored ignores same]

theorem climb_eq {invocation : Invocation ω} (ignores : invocation.host.IgnoresExpressions)
    (expression : Expr) (stored : Option Expr) (steps : Nat) (visited : List Target)
    (current : Option Target) :
    climb { invocation with expression, formatExpression := stored } steps visited current =
      climb invocation steps visited current := by
  induction steps generalizing visited current with
  | zero => rfl
  | succ steps ih =>
      cases current with
      | none => rfl
      | some current =>
          have called : { invocation with expression, formatExpression := stored }.callOn "labelAndName"
              current = invocation.callOn "labelAndName" current := ignores _ _ _ _ _ _
          simp only [climb, called, ih]

theorem seesReferences_namedContainingPanel : SeesReferences (namedContainingPanel : Provider ω) := by
  intro target invocation expression stored ignores _
  simp only [namedContainingPanel, climb_eq ignores]

/-- Every standard field sees at most the references of the stored expression. -/
theorem seesReferences_of_mem {called : QuantityName} {field : Provider ω}
    (provided : (called, field) ∈ quantities) : SeesReferences field := by
  simp only [quantities_eq, List.mem_cons, Prod.mk.injEq, List.not_mem_nil, or_false] at provided
  rcases provided with ⟨-, rfl⟩ | ⟨-, rfl⟩ | ⟨-, rfl⟩ | ⟨-, rfl⟩ | ⟨-, rfl⟩ | ⟨-, rfl⟩ |
    ⟨-, rfl⟩ | ⟨-, rfl⟩ | ⟨-, rfl⟩ | ⟨-, rfl⟩ | ⟨-, rfl⟩ | ⟨-, rfl⟩ | ⟨-, rfl⟩ | ⟨-, rfl⟩ |
    ⟨-, rfl⟩ | ⟨-, rfl⟩ | ⟨-, rfl⟩ | ⟨-, rfl⟩ | ⟨-, rfl⟩
  · exact seesReferences_of_blind fun _ _ _ _ _ _ _ _ _ _ => rfl
  · exact seesReferences_of_blind fun _ _ _ _ _ _ _ _ _ _ => rfl
  · exact seesReferences_of_blind fun _ _ _ _ _ _ _ _ _ _ => rfl
  · exact seesReferences_of_blind fun _ _ _ _ _ _ _ _ _ _ => rfl
  · exact seesReferences_of_blind fun _ _ _ _ _ _ _ _ _ _ => rfl
  · exact seesReferences_description
  · exact seesReferences_unrelatedLabelsOrDescription
  · exact seesReferences_of_blind fun _ _ _ _ _ _ _ _ _ _ => rfl
  · exact seesReferences_of_blind fun _ _ _ _ _ _ _ _ _ _ => rfl
  · exact seesReferences_of_blind fun _ _ _ _ _ _ _ _ _ _ => rfl
  · exact seesReferences_of_blind fun _ _ _ _ _ _ _ _ _ _ => rfl
  · exact seesReferences_of_blind fun _ _ _ _ _ _ _ _ _ _ => rfl
  · exact seesReferences_of_blind fun _ _ _ _ _ _ _ _ _ _ => rfl
  · exact seesReferences_of_blind fun _ _ _ _ _ _ _ _ _ _ => rfl
  · exact seesReferences_of_blind fun _ _ _ _ _ _ _ _ _ _ => rfl
  · exact seesReferences_namedContainingPanel
  · exact seesReferences_of_blind fun _ _ _ _ _ _ _ _ _ _ => rfl
  · exact seesReferences_of_blind fun _ _ _ _ _ _ _ _ _ _ => rfl
  · exact seesReferences_of_blind fun _ _ _ _ _ _ _ _ _ _ => rfl

end Fields

/-- The field with something that is done before it. -/
def Fields.watched (watch : Target → Action (State ω) Unit) (field : Provider ω) : Provider ω :=
  fun target invocation => do
    watch target
    field target invocation

theorem Fields.SeesReferences.watched {field : Provider ω} (sees : SeesReferences field)
    (watch : Target → Action (State ω) Unit) : SeesReferences (Fields.watched watch field) := by
  intro target invocation expression stored ignores same
  simp only [Fields.watched, sees target invocation expression stored ignores same]

/-- The registry whose fields are watched: `watch` runs whenever a quantity is about to be computed. -/
def Registry.watched (registry : Registry (Provider ω))
    (watch : QuantityName → Target → Action (State ω) Unit) : Registry (Provider ω) :=
  ⟨⟨registry.fields.entries.map fun entry =>
    (entry.1, { entry.2 with provider := Fields.watched (watch entry.1) entry.2.provider })⟩⟩

section Watching

variable {registry : Registry (Provider ω)} {watch : QuantityName → Target → Action (State ω) Unit}

theorem Registry.provider?_watched (name : QuantityName) :
    (registry.watched watch).provider? name =
      (registry.provider? name).map (Fields.watched (watch name)) := by
  simp only [provider?, SortedMap.get?, watched, List.find?_map, Option.map_map]
  apply Option.map_congr
  intro entry found
  have same : entry.1 = name := by simpa using List.find?_some found
  simp only [Function.comp_apply, same]

end Watching

namespace Engine

/-- The engine whose fields are watched. -/
def watched (engine : Engine ω) (watch : QuantityName → Target → Action (State ω) Unit) : Engine ω :=
  { engine with registry := engine.registry.watched watch }

/-- Whether all fields see at most the references of the stored expression. -/
def SeesReferences (engine : Engine ω) : Prop :=
  ∀ name field, engine.registry.provider? name = some field → Fields.SeesReferences field

variable {engine : Engine ω}

theorem IsStandard.seesReferences (standard : engine.IsStandard) : engine.SeesReferences :=
  fun _ _ provided => Fields.seesReferences_of_mem (standard.provider?_eq_some.mp provided)

theorem SeesReferences.watched (sees : engine.SeesReferences)
    (watch : QuantityName → Target → Action (State ω) Unit) : (engine.watched watch).SeesReferences := by
  intro name field provided
  have wrapped : (engine.registry.watched watch).provider? name = some field := provided
  rw [Registry.provider?_watched] at wrapped
  obtain ⟨inner, found, rfl⟩ := Option.map_eq_some_iff.mp wrapped
  exact (sees name inner found).watched (watch name)

theorem IsStandard.fields_watched (standard : engine.IsStandard)
    (watch : QuantityName → Target → Action (State ω) Unit) :
    (engine.watched watch).fields = fun below target context key expression name =>
      (Fields.quantities.lookup name).map fun field =>
        guarded (Fields.watched (watch name) field target
          (engine.invocation below context key expression)) := by
  funext below target context key expression name
  have listed : (engine.watched watch).registry = engine.registry.watched watch := rfl
  rw [fields, listed, Registry.provider?_watched, standard.provider?_eq, Option.map_map]
  rfl

theorem outermost_alike {table : Table} (alike : table.Alike engine.table) (context : Context)
    {body other : Expr} (same : body.Alike other) :
    Expr.Alike ((engine.withTable table).outermost context body) (engine.outermost context other) := by
  have usable (first second : Expr) (same : first.Alike second) :
      (engine.withTable table).usable first = engine.usable second := by
    unfold usable
    rw [same.references]
    rfl
  unfold outermost
  split
  · exact .wrap (optionRel_filter usable (alike.leadFor? context)) same
      (optionRel_filter usable (alike.trailFor? context))
  · exact same

section Levels

variable {table : Table} (sees : engine.SeesReferences) (alike : table.Alike engine.table)
  {below : Host ω} (ignores : below.IgnoresExpressions)
include sees alike ignores

theorem SeesReferences.field_withTable {name : QuantityName} {field : Provider ω}
    (provided : engine.registry.provider? name = some field) (target : Target) (context : Context)
    (key : FormatKey) (expression other : Expr) :
    field target ((engine.withTable table).invocation below context key expression) =
      field target (engine.invocation below context key other) := by
  refine sees name field provided target (engine.invocation below context key other) expression _
    ignores ?_
  exact Expr.references_getD (alike (.category key))

theorem SeesReferences.present_withTable (target : Target) (context : Context) (key : FormatKey)
    {expression other : Expr} (same : expression.Alike other) :
    (engine.withTable table).present below target context key expression =
      engine.present below target context key other := by
  have fields : (engine.withTable table).fields below target context key expression =
      engine.fields below target context key other := by
    funext name
    simp only [fields]
    apply Option.map_congr
    intro field provided
    rw [sees.field_withTable alike ignores provided target context key expression other]
  have settled : expression.settle (engine.fields below target context key other) =
      other.settle (engine.fields below target context key other) := by
    funext bindings state
    exact Expr.settle_congr same.evaluate _ bindings state
  rw [present_eq, present_eq, fields, settled]
  rfl

theorem SeesReferences.pass_withTable (target : Target) (context : Context) :
    (engine.withTable table).pass below target context = engine.pass below target context := by
  have asked : (engine.withTable table).categoryOf target context = engine.categoryOf target context :=
    rfl
  have keyed : (engine.withTable table).keyOf = engine.keyOf := rfl
  unfold pass
  rw [asked, keyed]
  apply congrArg contained
  apply bind_congr
  intro alive
  cases alive with
  | false => rfl
  | true =>
      apply bind_congr
      intro category
      cases category with
      | none => rfl
      | some category =>
          have bodies := alike.bodies (engine.keyOf context category)
          have stored : (engine.withTable table).table = table := rfl
          simp only [stored]
          generalize (table.get? (engine.keyOf context category)).filter (!·.isEmpty) = body at bodies ⊢
          generalize (engine.table.get? (engine.keyOf context category)).filter (!·.isEmpty) = other
            at bodies ⊢
          cases bodies with
          | none => rfl
          | some same =>
              cases context.recursing with
              | true => exact sees.present_withTable alike ignores target _ _ same
              | false =>
                  apply bind_congr
                  intro reset
                  exact sees.present_withTable alike ignores target _ _ (outermost_alike alike _ same)

theorem SeesReferences.compute_withTable (mode : Mode) (expression other : Expr) (name : String)
    (target : Target) (context : Context) :
    (engine.withTable table).compute below mode expression name target context =
      engine.compute below mode other name target context := by
  have asked : (engine.withTable table).categoryOf target context = engine.categoryOf target context :=
    rfl
  have listed : (engine.withTable table).registry = engine.registry := rfl
  unfold compute
  rw [asked, listed]
  cases provided : engine.registry.provider? (.normalize name) with
  | none => rfl
  | some field =>
      apply bind_congr
      intro category
      apply congrArg guarded
      exact sees.field_withTable alike ignores provided target _ _ expression other

end Levels

theorem SeesReferences.ignoresExpressions_host (sees : engine.SeesReferences) (depth : Nat) :
    (engine.host depth).IgnoresExpressions := by
  have same : engine.table.Alike engine.table := fun site => by
    cases engine.table.at? site with
    | none => exact .none
    | some expr => exact .some (.refl expr)
  induction depth with
  | zero => exact fun _ _ _ _ _ _ => rfl
  | succ below ih =>
      intro mode first second name target context
      exact sees.compute_withTable same ih mode first second name target context

/-- Nothing that an engine does depends on which of two tables it has, if they are alike. -/
theorem SeesReferences.host_withTable (sees : engine.SeesReferences) {table : Table}
    (alike : table.Alike engine.table) (depth : Nat) :
    (engine.withTable table).host depth = engine.host depth := by
  induction depth with
  | zero => rfl
  | succ below ih =>
      have ignores := sees.ignoresExpressions_host below
      have passes : (engine.withTable table).pass (engine.host below) = engine.pass (engine.host below) := by
        funext target context
        exact sees.pass_withTable alike ignores target context
      have computes : (engine.withTable table).compute (engine.host below) =
          engine.compute (engine.host below) := by
        funext mode expression name target context
        exact sees.compute_withTable alike ignores mode expression expression name target context
      change Host.mk ((engine.withTable table).pass ((engine.withTable table).host below))
        ((engine.withTable table).compute ((engine.withTable table).host below)) = _
      rw [ih, passes, computes]
      rfl

end Engine

/-- An expression that is rewritten, by regrouping chains of one operator and by adding and dropping
operands that say nothing, evaluates as before in every scope. If it is stored so, all presentations stay as
they were, with the state that they leave, and whoever watches the fields sees the same calls in the same
order. -/
theorem Expr.rewriting_is_immaterial {expr rewritten : Expr}
    (rewritings : Relation.EqvGen Rewrites expr rewritten) :
    (∀ scope, rewritten.evaluate scope = expr.evaluate scope) ∧ rewritten.isEmpty = expr.isEmpty ∧
    ∀ engine : Engine ω, engine.IsStandard → ∀ site, engine.table.at? site = some expr →
    ∀ (watch : QuantityName → Target → Action (State ω) Unit) (depth : Nat) (target : Target)
      (context : Context),
      let stored := (engine.watched watch).host depth
      let changed := ((engine.watched watch).withTable (engine.table.set site rewritten)).host depth
      changed.resolve target context = stored.resolve target context ∧
        changed.resolveAfresh target context = stored.resolveAfresh target context := by
  have alike := alike_of_rewritings rewritings
  refine ⟨fun scope => (alike.evaluate scope).symm, alike.isEmpty.symm, ?_⟩
  intro engine standard site stored watch depth target context
  have tables : (engine.table.set site rewritten).Alike (engine.watched watch).table := .set stored alike
  have same := (standard.seesReferences.watched watch).host_withTable tables depth
  exact ⟨congrArg (·.resolve target context) same, congrArg (·.resolveAfresh target context) same⟩

namespace Engine

section Example

def toggleKey : FormatKey := ⟨⟨"toggle button"⟩, .standard, .unfocused⟩

def alternatives : Expr :=
  .or (.or (.reference "label") (.reference "name")) (.reference "roleName")

def regrouped : Expr :=
  .or (.reference "label") (.or (.reference "name") (.concat .empty (.reference "roleName")))

theorem rewritings_alternatives : Relation.EqvGen Expr.Rewrites alternatives regrouped := by
  have grouped : Expr.Rewrites alternatives
      (.or (.reference "label") (.or (.reference "name") (.reference "roleName"))) :=
    .regroup .or (.reference "label") (.reference "name") (.reference "roleName")
  have dropped : Expr.Rewrites (.concat .empty (.reference "roleName")) (.reference "roleName") :=
    .dropLeft (nofun : Expr.Operator.concat ≠ .and) _
  have below : Expr.Rewrites regrouped
      (.or (.reference "label") (.or (.reference "name") (.reference "roleName"))) :=
    .inRight .or (.reference "label") (.inRight .or (.reference "name") dropped)
  exact .trans _ _ _ (.rel _ _ grouped) (.symm _ _ (.rel _ _ below))

/-- A button without label and name in a world that holds the names that have been computed. -/
def toolbar : Engine (List QuantityName) where
  objects :=
    { isValid := fun _ _ => .ok true
      category := fun _ _ => .ok (some toggleKey.category)
      roleName := fun _ _ => .ok (some "button") }
  table := ⟨⟨[(.category toggleKey, alternatives)]⟩, []⟩
  registry :=
    (Fields.registry : Except RegistryError (Registry (Provider (List QuantityName)))).toOption.getD .empty
  settings := .standard

def logging (name : QuantityName) (_ : Target) : Action (State (List QuantityName)) Unit :=
  modify fun state => { state with world := state.world ++ [name] }

theorem isStandard_toolbar : toolbar.IsStandard := isStandard_of_registry (by rw [toolbar])

theorem resolve_toolbar : ∃ resolution next,
    ((toolbar.watched logging).host 1).resolve 1 .standard (.start .standard 0 []) =
        .ok resolution next ∧
      resolution.fragments = [.text "button"] ∧ next.world = [⟨"label"⟩, ⟨"name"⟩, ⟨"roleName"⟩] := by
  have one : ((toolbar.watched logging).host 1).resolve =
      (toolbar.watched logging).pass ((toolbar.watched logging).host 0) := rfl
  have checked : okWith (fun resolution next => decide (resolution.fragments = [.text "button"] ∧
        next.world = [⟨"label"⟩, ⟨"name"⟩, ⟨"roleName"⟩]))
      (((toolbar.watched logging).host 1).resolve 1 .standard (.start .standard 0 [])) = true := by
    simp only [one, pass, present_eq, Expr.settle_eq_settleOnce, isStandard_toolbar.fields_watched,
      Fields.quantities_eq]
    decide +kernel
  obtain ⟨resolution, next, ran, told⟩ := exists_ok_of_okWith checked
  exact ⟨resolution, next, ran, of_decide_eq_true told⟩

/-- The regrouped expression asks for the same quantities in the same order. -/
theorem rewriting_is_immaterial_toolbar : ∃ resolution next,
    (((toolbar.watched logging).withTable
          (toolbar.table.set (.category toggleKey) regrouped)).host 1).resolve 1 .standard
        (.start .standard 0 []) = .ok resolution next ∧
      resolution.fragments = [.text "button"] ∧ next.world = [⟨"label"⟩, ⟨"name"⟩, ⟨"roleName"⟩] := by
  obtain ⟨resolution, next, ran, told⟩ := resolve_toolbar
  have same := (Expr.rewriting_is_immaterial rewritings_alternatives).2.2 toolbar isStandard_toolbar
    (.category toggleKey) (by rfl) logging 1 1 .standard
  exact ⟨resolution, next, by rw [same.1, ran], told⟩

end Example

end Engine

end Narration
