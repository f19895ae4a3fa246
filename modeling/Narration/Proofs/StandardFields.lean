import Narration.Proofs.FieldFrames
/-! Engines with the standard fields: which quantities they provide and what these leave as it was. -/
namespace Narration

variable {ω τ : Type}

namespace Fields

/-- The standard quantities with the fields that compute them. -/
def quantities : List (QuantityName × Provider ω) := Registry.quantities manifest

def standardNames : List QuantityName :=
  [⟨"name"⟩, ⟨"label"⟩, ⟨"labelOrName"⟩, ⟨"labelAndName"⟩, ⟨"placeholderText"⟩, ⟨"description"⟩,
    ⟨"unrelatedLabelsOrDescription"⟩, ⟨"roleName"⟩, ⟨"substring"⟩, ⟨"displayedText"⟩,
    ⟨"currentLineText"⟩, ⟨"value"⟩, ⟨"progressBarValue"⟩, ⟨"progressBarIndex"⟩,
    ⟨"applicationName"⟩, ⟨"namedContainingPanel"⟩, ⟨"realActiveDescendantDisplayedText"⟩,
    ⟨"realActiveDescendantRoleName"⟩, ⟨"activeDescendant"⟩]

theorem map_ofImplementation :
    ["generate_name", "generate_label", "generate_label_or_name", "generate_label_and_name",
      "generate_placeholder_text", "generate_description", "generate_unrelated_labels_or_description",
      "generate_role_name", "generate_substring", "generate_displayed_text",
      "generate_current_line_text", "generate_value", "generate_progress_bar_value",
      "generate_progress_bar_index", "generate_application_name", "generate_named_containing_panel",
      "generate_real_active_descendant_displayed_text",
      "generate_real_active_descendant_role_name", "generate_active_descendant"].map
        QuantityName.ofImplementation = standardNames := by
  decide +kernel

theorem quantities_eq : (quantities : List (QuantityName × Provider ω)) =
    [(⟨"name"⟩, name), (⟨"label"⟩, label), (⟨"labelOrName"⟩, labelOrName),
      (⟨"labelAndName"⟩, labelAndName), (⟨"placeholderText"⟩, placeholderText),
      (⟨"description"⟩, description),
      (⟨"unrelatedLabelsOrDescription"⟩, unrelatedLabelsOrDescription), (⟨"roleName"⟩, roleName),
      (⟨"substring"⟩, substring), (⟨"displayedText"⟩, displayedText),
      (⟨"currentLineText"⟩, currentLineText), (⟨"value"⟩, value),
      (⟨"progressBarValue"⟩, progressBarValue), (⟨"progressBarIndex"⟩, progressBarIndex),
      (⟨"applicationName"⟩, applicationName), (⟨"namedContainingPanel"⟩, namedContainingPanel),
      (⟨"realActiveDescendantDisplayedText"⟩, realActiveDescendantDisplayedText),
      (⟨"realActiveDescendantRoleName"⟩, realActiveDescendantRoleName),
      (⟨"activeDescendant"⟩, activeDescendant)] := by
  have names := map_ofImplementation
  simp only [standardNames, List.map_cons, List.map_nil, List.cons.injEq] at names
  simp only [quantities, Registry.quantities, manifest, List.map_cons, List.map_nil, names]

/-- The standard fields can be registered. -/
theorem exists_registry : ∃ provided : Registry (Provider ω), registry = .ok provided := by
  have names : Registry.asked (manifest : List (Field (Provider ω))) = standardNames := by
    rw [← map_ofImplementation]
    rfl
  refine Registry.exists_ofManifest_iff.mpr ⟨?_, ?_⟩
  · rw [names]
    decide
  · rw [names]
    decide

/-- Standard quantities are asked for by the names that they have. -/
theorem mem_quantities_normalize {name : String} {field : Provider ω}
    (asked : name ∈ ["name", "labelAndName", "displayedText", "roleName"])
    (provided : (⟨name⟩, field) ∈ quantities) : (.normalize name, field) ∈ quantities := by
  have plain : ["name", "labelAndName", "displayedText", "roleName"].all fun name =>
      QuantityName.normalize name = ⟨name⟩ := by decide
  have same : QuantityName.normalize name = ⟨name⟩ :=
    of_decide_eq_true (List.all_eq_true.mp plain name asked)
  rw [same]
  exact provided

theorem mem_quantities_name :
    (.normalize "name", name) ∈ (quantities : List (QuantityName × Provider ω)) :=
  mem_quantities_normalize (by decide) (by simp [quantities_eq])

theorem mem_quantities_labelAndName :
    (.normalize "labelAndName", labelAndName) ∈ (quantities : List (QuantityName × Provider ω)) :=
  mem_quantities_normalize (by decide) (by simp [quantities_eq])

theorem mem_quantities_displayedText :
    (.normalize "displayedText", displayedText) ∈ (quantities : List (QuantityName × Provider ω)) :=
  mem_quantities_normalize (by decide) (by simp [quantities_eq])

theorem mem_quantities_roleName :
    (.normalize "roleName", roleName) ∈ (quantities : List (QuantityName × Provider ω)) :=
  mem_quantities_normalize (by decide) (by simp [quantities_eq])

/-- A field that changes nothing but what the tracker changes when it is asked. -/
def IsQuiet (field : Provider ω) : Prop :=
  ∀ (τ : Type) (part : State ω → τ) (target : Target) (invocation : Invocation ω),
    IgnoresAsking invocation.objects part → invocation.host.KeepsOn "displayedText" part →
    invocation.host.KeepsOn "roleName" part → Keeps part (field target invocation)

/-- The fields that may set or clear marks. -/
inductive IsMarking : QuantityName → Provider ω → Prop
  | name : IsMarking ⟨"name"⟩ name
  | labelOrName : IsMarking ⟨"labelOrName"⟩ labelOrName
  | labelAndName : IsMarking ⟨"labelAndName"⟩ labelAndName
  | unrelatedLabelsOrDescription :
      IsMarking ⟨"unrelatedLabelsOrDescription"⟩ unrelatedLabelsOrDescription
  | namedContainingPanel : IsMarking ⟨"namedContainingPanel"⟩ namedContainingPanel
  | activeDescendant : IsMarking ⟨"activeDescendant"⟩ activeDescendant

theorem isRoutine_or_isMarking {called : QuantityName} {field : Provider ω}
    (provided : (called, field) ∈ quantities) :
    (∀ rights : Rights, rights.asksTracker → rights.quantities "displayedText" →
      rights.quantities "roleName" → IsRoutine rights field) ∨ IsMarking called field := by
  simp only [quantities_eq, List.mem_cons, Prod.mk.injEq, List.not_mem_nil, or_false] at provided
  rcases provided with ⟨rfl, rfl⟩ | ⟨-, rfl⟩ | ⟨rfl, rfl⟩ | ⟨rfl, rfl⟩ | ⟨-, rfl⟩ | ⟨-, rfl⟩ |
    ⟨rfl, rfl⟩ | ⟨-, rfl⟩ | ⟨-, rfl⟩ | ⟨-, rfl⟩ | ⟨-, rfl⟩ | ⟨-, rfl⟩ | ⟨-, rfl⟩ | ⟨-, rfl⟩ |
    ⟨-, rfl⟩ | ⟨rfl, rfl⟩ | ⟨-, rfl⟩ | ⟨-, rfl⟩ | ⟨rfl, rfl⟩
  · exact .inr .name
  · exact .inl fun _ _ _ _ => isRoutine_label
  · exact .inr .labelOrName
  · exact .inr .labelAndName
  · exact .inl fun _ _ _ _ => isRoutine_placeholderText
  · exact .inl fun _ _ _ _ => isRoutine_description
  · exact .inr .unrelatedLabelsOrDescription
  · exact .inl fun _ _ _ _ => isRoutine_roleName
  · exact .inl fun _ _ _ _ => isRoutine_substring
  · exact .inl fun _ _ _ _ => isRoutine_displayedText
  · exact .inl fun _ _ _ _ => isRoutine_currentLineText
  · exact .inl fun _ _ _ _ => isRoutine_value
  · exact .inl fun _ asks _ _ => isRoutine_progressBarValue asks
  · exact .inl fun _ asks _ _ => isRoutine_progressBarIndex asks
  · exact .inl fun _ _ _ _ => isRoutine_applicationName
  · exact .inr .namedContainingPanel
  · exact .inl fun _ _ shown _ => isRoutine_realActiveDescendantDisplayedText shown
  · exact .inl fun _ _ _ named => isRoutine_realActiveDescendantRoleName named
  · exact .inr .activeDescendant

theorem isQuiet_or_isMarking {called : QuantityName} {field : Provider ω}
    (provided : (called, field) ∈ quantities) : IsQuiet field ∨ IsMarking called field := by
  refine (isRoutine_or_isMarking provided).imp_left fun routine => ?_
  intro τ part target invocation asking shown named
  exact (routine _ asking shown named).keeps target

/-- Every standard field is put together from what its invocation offers. -/
theorem isRoutine_of_mem {called : QuantityName} {field : Provider ω}
    (provided : (called, field) ∈ quantities) : IsRoutine .all field := by
  rcases isRoutine_or_isMarking provided with routine | marking
  · exact routine .all trivial trivial trivial
  · cases marking with
    | name => exact isRoutine_name trivial trivial
    | labelOrName => exact isRoutine_labelOrName trivial trivial
    | labelAndName => exact isRoutine_labelAndName trivial trivial
    | unrelatedLabelsOrDescription => exact isRoutine_unrelatedLabelsOrDescription trivial
    | namedContainingPanel => exact isRoutine_namedContainingPanel trivial
    | activeDescendant => exact isRoutine_activeDescendant trivial

end Fields

namespace Engine

variable (engine : Engine ω) {part : State ω → τ}

/-- The engine provides the standard fields and no others. -/
def IsStandard : Prop := Fields.registry = .ok engine.registry

variable {engine}

theorem isStandard_of_registry
    (built : engine.registry =
      (Fields.registry : Except RegistryError (Registry (Provider ω))).toOption.getD .empty) :
    engine.IsStandard := by
  obtain ⟨provided, registered⟩ : ∃ provided : Registry (Provider ω), Fields.registry = .ok provided :=
    Fields.exists_registry
  rw [IsStandard, built, registered]
  rfl

theorem IsStandard.provider?_eq_some (standard : engine.IsStandard) {name : QuantityName}
    {field : Provider ω} :
    engine.registry.provider? name = some field ↔ (name, field) ∈ Fields.quantities :=
  Registry.provider?_ofManifest standard

theorem IsStandard.provider_unique (standard : engine.IsStandard) {name : QuantityName}
    {field other : Provider ω} (provided : (name, field) ∈ Fields.quantities)
    (again : (name, other) ∈ Fields.quantities) : field = other := by
  have found := standard.provider?_eq_some.mpr provided
  rw [standard.provider?_eq_some.mpr again] at found
  exact (Option.some.inj found).symm

/-- The provided fields are looked up among the standard ones, without building the registry. -/
theorem IsStandard.provider?_eq (standard : engine.IsStandard) (name : QuantityName) :
    engine.registry.provider? name = Fields.quantities.lookup name := by
  cases found : Fields.quantities.lookup name with
  | none =>
      refine Option.eq_none_iff_forall_ne_some.mpr fun field provided => ?_
      have apart := List.lookup_eq_none_iff.mp found _ (standard.provider?_eq_some.mp provided)
      simp at apart
  | some field =>
      obtain ⟨before, after, split, -⟩ := List.lookup_eq_some_iff.mp found
      exact standard.provider?_eq_some.mpr (by simp [split])

theorem IsStandard.fields_eq (standard : engine.IsStandard) :
    engine.fields = fun below target context key expression name =>
      (Fields.quantities.lookup name).map fun provider =>
        guarded (provider target (engine.invocation below context key expression)) := by
  funext below target context key expression name
  rw [fields, standard.provider?_eq]

/-- So are the fields that a field asks for by name. -/
theorem IsStandard.compute_eq (standard : engine.IsStandard) :
    engine.compute = fun below mode expression name target context => (do
      match (Fields.quantities.lookup (.normalize name) : Option (Provider ω)) with
      | none => throw (.field (.unknownQuantity (.normalize name)))
      | some provider =>
        let category := (← engine.categoryOf target context).getD .unknown
        let context := context.withRole category
        let key : FormatKey := ⟨category, context.mode.getD mode, context.effectiveFormatType⟩
        guarded (provider target (engine.invocation below context key expression)) :
      Action (State ω) (List Fragment)) := by
  funext below mode expression name target context
  have found := standard.provider?_eq (.normalize name)
  cases provided : Fields.quantities.lookup (QuantityName.normalize name) with
  | none =>
      rw [provided] at found
      simp only [compute, found]
  | some provider =>
      rw [provided] at found
      simp only [compute, found]

theorem host_succ (depth : Nat) :
    engine.host (depth + 1) =
      ⟨engine.pass (engine.host depth), engine.compute (engine.host depth)⟩ := rfl

theorem IsStandard.eq_activeDescendant (standard : engine.IsStandard) {field : Provider ω}
    (provided : engine.registry.provider? ⟨"activeDescendant"⟩ = some field) :
    field = Fields.activeDescendant :=
  standard.provider_unique (standard.provider?_eq_some.mp provided) (by simp [Fields.quantities_eq])

theorem keeps_categoryOf (target : Target) (context : Context) :
    Keeps part (engine.categoryOf target context) := by
  unfold categoryOf
  split
  · exact keeps_pure _
  · exact keeps_ask _

/-- A quantity that is computed by its name leaves as it was what its field leaves as it was. -/
theorem keeps_compute {below : Host ω} {name : String}
    (kept : ∀ field, engine.registry.provider? (.normalize name) = some field →
      ∀ target context key expression,
        Keeps part (field target (engine.invocation below context key expression)))
    (mode : Mode) (expression : Expr) (target : Target) (context : Context) :
    Keeps part (engine.compute below mode expression name target context) := by
  unfold compute
  split
  · exact keeps_throw _
  · rename_i field provided
    exact (keeps_categoryOf _ _).bind fun category => (kept field provided _ _ _ _).guarded

theorem IsStandard.keepsOn_host (standard : engine.IsStandard) {name : String} {field : Provider ω}
    (provided : (.normalize name, field) ∈ Fields.quantities) (depth : Nat)
    (kept : ∀ below, depth = below + 1 → ∀ target context key expression,
      Keeps part (field target (engine.invocation (engine.host below) context key expression))) :
    (engine.host depth).KeepsOn name part := by
  cases depth with
  | zero => exact fun _ _ _ _ => keeps_throw _
  | succ below =>
      refine fun mode expression target context =>
        keeps_compute (fun other found => ?_) mode expression target context
      cases standard.provider_unique provided (standard.provider?_eq_some.mp found)
      exact kept below rfl

theorem IsStandard.keepsOn_displayedText (standard : engine.IsStandard) (depth : Nat) :
    (engine.host depth).KeepsOn "displayedText" part :=
  standard.keepsOn_host Fields.mem_quantities_displayedText depth fun _ _ _ _ _ _ =>
    Fields.isRoutine_displayedText.keeps _

theorem IsStandard.keepsOn_roleName (standard : engine.IsStandard) (depth : Nat) :
    (engine.host depth).KeepsOn "roleName" part :=
  standard.keepsOn_host Fields.mem_quantities_roleName depth fun _ _ _ _ _ _ =>
    Fields.isRoutine_roleName.keeps _

theorem IsStandard.keepsOn_name (standard : engine.IsStandard) (ignores : IgnoresMark .name part)
    (depth : Nat) : (engine.host depth).KeepsOn "name" part := by
  induction depth with
  | zero => exact fun _ _ _ _ => keeps_throw _
  | succ below ih =>
      refine standard.keepsOn_host Fields.mem_quantities_name (below + 1)
        fun other here target context key expression => ?_
      cases here
      exact (Fields.isRoutine_name ignores ih).keeps _

theorem IsStandard.keepsOn_labelAndName (standard : engine.IsStandard)
    (ignores : IgnoresMark .name part) (depth : Nat) :
    (engine.host depth).KeepsOn "labelAndName" part :=
  standard.keepsOn_host Fields.mem_quantities_labelAndName depth fun below _ _ _ _ _ =>
    (Fields.isRoutine_labelAndName ignores (standard.keepsOn_name ignores below)).keeps _

/-- A quiet field is quiet in each pass. -/
theorem IsStandard.keeps_of_isQuiet (standard : engine.IsStandard) {field : Provider ω}
    (quiet : Fields.IsQuiet field) (asking : IgnoresAsking engine.objects part) (depth : Nat)
    (target : Target) (context : Context) (key : FormatKey) (expression : Expr) :
    Keeps part (field target (engine.invocation (engine.host depth) context key expression)) :=
  quiet τ part target _ asking (standard.keepsOn_displayedText depth)
    (standard.keepsOn_roleName depth)

section Passes

variable {below : Host ω} {target : Target}

/-- A pass leaves as it was what all of its fields leave as they were. -/
theorem keeps_pass (updates : IgnoresUpdates engine.objects part)
    (reset : ∀ (state : State ω) fallbacks, part { state with fallbacks } = part state)
    (kept : ∀ context key expression name compute,
      engine.fields below target context key expression name = some compute → Keeps part compute)
    (context : Context) : Keeps part (engine.pass below target context) := by
  have presents (context : Context) (key : FormatKey) (expression : Expr) :
      Keeps part (engine.present below target context key expression) := by
    refine (Expr.keeps_settle (kept context key expression) _ _).bind fun settled => ?_
    split
    · exact keeps_pure _
    · exact keeps_pure _
    · split
      · exact (updates.recordProgress _).bind fun _ => keeps_pure _
      · exact keeps_pure _
  refine Keeps.contained ((keeps_ask _).bind fun valid => ?_)
  refine keeps_ite ((keeps_categoryOf _ _).bind fun category => ?_) (keeps_pure _)
  cases category with
  | none => exact keeps_pure _
  | some category =>
      simp only []
      split
      · exact keeps_pure _
      · refine keeps_ite (presents _ _ _) ?_
        exact (keeps_modify fun state => reset state _).bind fun _ => presents _ _ _

end Passes

theorem fields_eq_some {below : Host ω} {target : Target} {context : Context} {key : FormatKey}
    {expression : Expr} {name : QuantityName} {compute : Action (State ω) (List Fragment)}
    (found : engine.fields below target context key expression name = some compute) :
    ∃ field, engine.registry.provider? name = some field ∧
      guarded (field target (engine.invocation below context key expression)) = compute :=
  Option.map_eq_some_iff.mp found

/-- A quantity that is asked of another object is computed by its field under that object's own
category. -/
theorem IsStandard.callOn_eq_ok (standard : engine.IsStandard) {name : String} {field : Provider ω}
    (provided : (.normalize name, field) ∈ Fields.quantities) {depth : Nat} {context : Context}
    {key : FormatKey} {expression : Expr} {other : Target} {state next : State ω}
    {value : List Fragment}
    (ran : (engine.invocation (engine.host depth) context key expression).callOn name other state =
      .ok value next) :
    ∃ (category : Option Category) (below : Nat) (inner : Context) (own : FormatKey),
      engine.objects.category state.world other = .ok category ∧
      own.category = category.getD .unknown ∧
      field other (engine.invocation (engine.host below) inner own expression) state =
        .ok value next := by
  cases depth with
  | zero => cases ran
  | succ below =>
      change engine.compute (engine.host below) key.mode expression name other context.withoutRole
        state = .ok value next at ran
      unfold compute at ran
      rw [standard.provider?_eq_some.mpr provided] at ran
      obtain ⟨category, between, asked, computed⟩ := bind_eq_ok.mp ran
      have plain : engine.categoryOf other context.withoutRole =
        ask (engine.objects.category · other) := rfl
      rw [plain] at asked
      obtain ⟨answered, rfl⟩ := ask_eq_ok.mp asked
      exact ⟨category, below, _, _, answered, rfl, guarded_eq_ok.mp computed⟩

section Untouched

variable (standard : engine.IsStandard)
  (reset : ∀ (state : State ω) fallbacks, part { state with fallbacks } = part state)
include standard reset

/-- Only the field that presents the active descendant starts further passes. -/
theorem IsStandard.keeps_apart (asking : IgnoresAsking engine.objects part) {name : QuantityName}
    {field : Provider ω} (provided : engine.registry.provider? name = some field)
    (apart : name ≠ ⟨"activeDescendant"⟩) (depth : Nat) (target : Target) (context : Context)
    (key : FormatKey) (expression : Expr) :
    Keeps part (field target (engine.invocation (engine.host depth) context key expression)) := by
  have unmarked (mark : Fallback) : IgnoresMark mark part := fun state value => reset state _
  have named : (engine.host depth).KeepsOn "name" part := standard.keepsOn_name (unmarked .name) depth
  rcases Fields.isQuiet_or_isMarking (standard.provider?_eq_some.mp provided) with quiet | marking
  · exact standard.keeps_of_isQuiet quiet asking depth target context key expression
  · cases marking with
    | name => exact (Fields.isRoutine_name (unmarked .name) named).keeps _
    | labelOrName => exact (Fields.isRoutine_labelOrName (unmarked .name) named).keeps _
    | labelAndName => exact (Fields.isRoutine_labelAndName (unmarked .name) named).keeps _
    | unrelatedLabelsOrDescription =>
        exact (Fields.isRoutine_unrelatedLabelsOrDescription (unmarked .unrelatedLabels)).keeps _
    | namedContainingPanel =>
        exact (Fields.isRoutine_namedContainingPanel
          (standard.keepsOn_labelAndName (unmarked .name) depth)).keeps _
    | activeDescendant => exact absurd rfl apart

section Updates

variable (updates : IgnoresUpdates engine.objects part)
include updates

theorem IsStandard.keeps_field {name : QuantityName} {field : Provider ω}
    (provided : engine.registry.provider? name = some field) {depth : Nat}
    (resolves : ∀ target context, Keeps part ((engine.host depth).resolve target context))
    (target : Target) (context : Context) (key : FormatKey) (expression : Expr) :
    Keeps part (field target (engine.invocation (engine.host depth) context key expression)) := by
  by_cases presents : name = ⟨"activeDescendant"⟩
  · subst presents
    cases standard.eq_activeDescendant provided
    exact (Fields.isRoutine_activeDescendant resolves).keeps _
  · exact standard.keeps_apart reset updates.toIgnoresAsking provided presents depth target context key
      expression

/-- A part that no operation of the tracker and no mark changes is never changed, not even by what other
objects present: no standard field changes anything else. -/
theorem IsStandard.keeps_host_of_updates (depth : Nat) :
    (∀ name, (engine.host depth).KeepsOn name part) ∧
      ∀ target context, Keeps part ((engine.host depth).resolve target context) := by
  induction depth with
  | zero => exact ⟨fun _ _ _ _ _ => keeps_throw _, fun _ _ => keeps_throw _⟩
  | succ below ih =>
      obtain ⟨-, resolves⟩ := ih
      constructor
      · exact fun name => keeps_compute fun field provided =>
          standard.keeps_field reset updates provided resolves
      · intro target context
        refine keeps_pass updates reset (fun context key expression name compute found => ?_) context
        obtain ⟨field, provided, rfl⟩ := fields_eq_some found
        exact (standard.keeps_field reset updates provided resolves target context key
          expression).guarded

theorem IsStandard.keeps_fields_of_updates {depth : Nat} {target : Target} {context : Context}
    {key : FormatKey} {expression : Expr} {name : QuantityName}
    {compute : Action (State ω) (List Fragment)}
    (found : engine.fields (engine.host depth) target context key expression name = some compute) :
    Keeps part compute := by
  obtain ⟨-, resolves⟩ := standard.keeps_host_of_updates reset updates depth
  obtain ⟨field, provided, rfl⟩ := fields_eq_some found
  exact (standard.keeps_field reset updates provided resolves target context key expression).guarded

end Updates

variable (tracker : IgnoresTracker part)
include tracker

/-- A part that neither the tracker nor the marks belong to is never changed. -/
theorem IsStandard.keeps_host (depth : Nat) :
    (∀ name, (engine.host depth).KeepsOn name part) ∧
      ∀ target context, Keeps part ((engine.host depth).resolve target context) :=
  standard.keeps_host_of_updates reset (tracker.updates _) depth

theorem IsStandard.keeps_fields {depth : Nat} {target : Target} {context : Context}
    {key : FormatKey} {expression : Expr} {name : QuantityName}
    {compute : Action (State ω) (List Fragment)}
    (found : engine.fields (engine.host depth) target context key expression name = some compute) :
    Keeps part compute :=
  standard.keeps_fields_of_updates reset (tracker.updates _) found

end Untouched

end Engine
end Narration
