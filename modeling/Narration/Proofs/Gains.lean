import Narration.Proofs.Marks
import Narration.Proofs.Pass
/-! Which computations leave marks, and whose description has stood in for something there. -/
namespace Narration

variable {ω α β : Type} {mark : Fallback} {state : State ω}

theorem ignoresMark_get {other : Fallback} (apart : mark ≠ other) :
    IgnoresMark other fun state : State ω => state.fallbacks.get mark := by
  intro state value
  cases mark <;> cases other <;> first | rfl | exact absurd rfl apart

/-- A computation leaves a mark that it has not found. -/
structure Gains (mark : Fallback) (action : Action (State ω) α) (state : State ω) : Prop where
  before : state.fallbacks.get mark = false
  after : (finalState (action state)).fallbacks.get mark = true

section Gains

variable {action : Action (State ω) α} {rest : α → Action (State ω) β}

theorem Keeps.not_gains (kept : Keeps (fun state => state.fallbacks.get mark) action) :
    ¬ Gains mark action state := by
  intro gains
  have same : (finalState (action state)).fallbacks.get mark = state.fallbacks.get mark := kept state
  rw [gains.before, gains.after] at same
  cases same

theorem not_gains_pure (value : α) : ¬ Gains mark (pure value) state := (keeps_pure value).not_gains

/-- A mark is left by the first part of a computation, or by the rest of it. -/
theorem Gains.of_bind (gains : Gains mark (action >>= rest) state) :
    Gains mark action state ∨
      ∃ value between, action state = .ok value between ∧ Gains mark (rest value) between := by
  obtain ⟨before, after⟩ := gains
  cases ran : action state with
  | error halt between =>
      rw [bind_of_error ran] at after
      exact .inl ⟨before, by rw [ran]; exact after⟩
  | ok value between =>
      rw [bind_of_ok ran] at after
      cases marked : between.fallbacks.get mark with
      | false => exact .inr ⟨value, between, rfl, marked, after⟩
      | true => exact .inl ⟨before, by rw [ran]; exact marked⟩

theorem Gains.of_bind_keeps (gains : Gains mark (action >>= rest) state)
    (kept : Keeps (fun state => state.fallbacks.get mark) action) :
    ∃ value between, action state = .ok value between ∧ Gains mark (rest value) between :=
  gains.of_bind.resolve_left kept.not_gains

theorem Gains.of_ask {query : ω → Query α} (gains : Gains mark (ask query >>= rest) state) :
    ∃ answer, query state.world = .ok answer ∧ Gains mark (rest answer) state := by
  obtain ⟨answer, between, asked, gains⟩ := gains.of_bind_keeps (keeps_ask query)
  obtain ⟨answered, rfl⟩ := ask_eq_ok.mp asked
  exact ⟨answer, answered, gains⟩

theorem Gains.of_guarded (gains : Gains mark (guarded action) state) : Gains mark action state :=
  ⟨gains.before, by rw [← finalState_guarded]; exact gains.after⟩

end Gains

/-- A text query is answered, but there is nothing to say. -/
def SaysNothing (query : Query (Option String)) : Prop :=
  ∃ text, query = .ok text ∧ Fields.textOf text = []

namespace Fields

/-- There is neither a name nor a description. -/
structure Nameless (objects : ObjectModel ω) (world : ω) (target : Target) : Prop where
  unnamed : SaysNothing (objects.name world target)
  undescribed : SaysNothing (objects.description world target)

/-- What an object is called is the description of `owner`: its own, or for an icon without name and
description the one of the panel that holds it. -/
inductive NamedBy (objects : ObjectModel ω) (world : ω) (owner : Target) : Category → Target → Prop
  | own {category : Category} {text : String} (back : FallsBack objects world category owner text) :
      NamedBy objects world owner category owner
  | holder {icon : Target} {text : String} (nameless : Nameless objects world icon)
      (held : objects.parent world icon = .ok (some owner))
      (isPanel : objects.category world owner = .ok (some .panel))
      (back : FallsBack objects world .panel owner text) : NamedBy objects world owner .icon icon

theorem NamedBy.of_ne {objects : ObjectModel ω} {world : ω} {owner target : Target} {category : Category}
    (named : NamedBy objects world owner category target) (apart : category ≠ .icon) :
    owner = target ∧ ∃ text, FallsBack objects world category target text := by
  cases named with
  | own back => exact ⟨rfl, _, back⟩
  | holder => exact absurd rfl apart

/-- A table cell without label, name and description is called what its active descendant is called,
which is the description of `owner`. -/
structure CellNamedBy (objects : ObjectModel ω) (world : ω) (owner cell : Target) : Prop where
  unlabelled : SaysNothing (objects.label world cell)
  nameless : Nameless objects world cell
  descends : ∃ other kind, objects.activeDescendant world cell = .ok (some other) ∧
    objects.category world other = .ok kind ∧ NamedBy objects world owner (kind.getD .unknown) other

/-- The climb goes on behind an object that is no panel, and behind a panel that has nothing to say. -/
def Passed (objects : ObjectModel ω) (world : ω) (current : Target) : Prop :=
  ∃ category, objects.category world current = .ok category ∧
    (category = some .panel →
      SaysNothing (objects.label world current) ∧ Nameless objects world current)

/-- The climb from an object comes to the panel `owner`, whose name is taken from its description. -/
inductive ClimbsTo (objects : ObjectModel ω) (world : ω) (owner : Target) :
    List Target → Target → Prop
  | here {visited : List Target} {text : String} (fresh : owner ∉ visited)
      (isPanel : objects.category world owner = .ok (some .panel))
      (back : FallsBack objects world .panel owner text) : ClimbsTo objects world owner visited owner
  | further {visited : List Target} {current other : Target} (fresh : current ∉ visited)
      (passed : Passed objects world current) (above : objects.parent world current = .ok (some other))
      (climbs : ClimbsTo objects world owner (current :: visited) other) :
      ClimbsTo objects world owner visited current

variable {target : Target} {invocation : Invocation ω} {next : State ω} {text : String}

theorem exists_text_of_textOf {described : Option String} {first : Fragment} {rest : List Fragment}
    (told : textOf described = first :: rest) : ∃ text, described = some text ∧ text ≠ "" := by
  cases described with
  | none => cases told
  | some text =>
      refine ⟨text, rfl, fun empty => ?_⟩
      rw [textOf, if_pos empty] at told
      cases told

/-- A name that leaves the mark is a description, or it is asked of the panel that holds an icon. -/
theorem gains_name (gains : Gains .name (name target invocation) state) :
    (∃ text, FallsBack invocation.objects state.world invocation.category target text) ∨
      invocation.category = .icon ∧ Nameless invocation.objects state.world target ∧
        ∃ parent, invocation.objects.parent state.world target = .ok (some parent) ∧
          invocation.objects.category state.world parent = .ok (some .panel) ∧
          Gains .name (invocation.callOn "name" parent)
            { state with fallbacks := state.fallbacks.set .name false } := by
  unfold name at gains
  rcases gains.of_bind with ⟨-, impossible⟩ | ⟨_, between, cleared, gains⟩
  · cases impossible
  cases cleared
  obtain ⟨own, named, gains⟩ := gains.of_ask
  cases told : textOf own with
  | cons first rest =>
      simp only [told] at gains
      exact absurd gains (not_gains_pure _)
  | nil =>
      simp only [told, List.isEmpty_nil, Bool.not_true, Bool.false_eq_true, if_false] at gains
      by_cases allowed : invocation.category = .label
      · simp only [allowed, ne_eq, not_true_eq_false, if_false] at gains
        exact absurd gains (not_gains_pure _)
      simp only [ne_eq, allowed, not_false_eq_true, if_true] at gains
      obtain ⟨described, answered, gains⟩ := gains.of_ask
      cases spoken : textOf described with
      | cons first rest =>
          obtain ⟨text, rfl, nonempty⟩ := exists_text_of_textOf spoken
          exact .inl ⟨text, allowed, ⟨own, named, told⟩, answered, nonempty⟩
      | nil =>
          simp only [spoken, List.isEmpty_nil, Bool.not_true, Bool.false_eq_true, if_false] at gains
          by_cases icon : invocation.category = .icon
          · rw [if_pos icon] at gains
            obtain ⟨parent, above, gains⟩ := gains.of_ask
            cases parent with
            | none => exact absurd gains (not_gains_pure _)
            | some parent =>
                obtain ⟨category, kind, gains⟩ := gains.of_ask
                by_cases isPanel : category = some .panel
                · subst isPanel
                  rw [if_pos rfl] at gains
                  exact .inr ⟨icon, ⟨⟨own, named, told⟩, ⟨described, answered, spoken⟩⟩, parent, above,
                    kind, gains⟩
                · rw [if_neg isPanel] at gains
                  exact absurd gains (not_gains_pure _)
          · rw [if_neg icon] at gains
            exact absurd gains (not_gains_pure _)

/-- An object that is called nothing has neither a name nor, unless it is a label, a description. -/
theorem nameless_of_name (ran : name target invocation state = .ok [] next)
    (allowed : invocation.category ≠ .label) : Nameless invocation.objects state.world target := by
  unfold name at ran
  obtain ⟨_, between, cleared, ran⟩ := bind_eq_ok.mp ran
  cases cleared
  obtain ⟨own, between, asked, ran⟩ := bind_eq_ok.mp ran
  obtain ⟨named, rfl⟩ := ask_eq_ok.mp asked
  cases told : textOf own with
  | cons first rest =>
      simp only [told] at ran
      cases ran
  | nil =>
      simp only [told, List.isEmpty_nil, Bool.not_true, Bool.false_eq_true, if_false, ne_eq, allowed,
        not_false_eq_true, if_true] at ran
      obtain ⟨described, between, asked, ran⟩ := bind_eq_ok.mp ran
      obtain ⟨answered, rfl⟩ := ask_eq_ok.mp asked
      cases spoken : textOf described with
      | cons first rest =>
          simp only [spoken] at ran
          cases ran
      | nil => exact ⟨⟨own, named, told⟩, ⟨described, answered, spoken⟩⟩

theorem joinLabelAndName_eq_nil {label name : List Fragment} (silent : joinLabelAndName label name = []) :
    label = [] ∧ name = [] := by
  unfold joinLabelAndName at silent
  cases label with
  | nil => exact ⟨rfl, silent⟩
  | cons first rest =>
      simp only [List.isEmpty_cons, Bool.false_eq_true, if_false] at silent
      split at silent
      · cases silent
      · split at silent
        · split at silent
          · cases silent
          · cases silent
        · cases silent

/-- A label or else a name leaves the mark only as a name. -/
theorem gains_labelOrName (gains : Gains .name (labelOrName target invocation) state) :
    SaysNothing (invocation.objects.label state.world target) ∧
      Gains .name (name target invocation) state := by
  unfold labelOrName at gains
  obtain ⟨told, between, labelled, gains⟩ := gains.of_bind_keeps (isRoutine_label.keeps target)
  obtain ⟨⟨own, answered, silent⟩, rfl⟩ := label_eq_ok.mp labelled
  cases told with
  | nil => exact ⟨⟨own, answered, silent⟩, gains⟩
  | cons first rest => exact absurd gains (not_gains_pure _)

/-- A label and name leaves the mark as the name, or as the name of the active descendant of a cell. -/
theorem gains_labelAndName (gains : Gains .name (labelAndName target invocation) state) :
    Gains .name (name target invocation) state ∨
      invocation.category = .tableCell ∧ SaysNothing (invocation.objects.label state.world target) ∧
        ∃ next, name target invocation state = .ok [] next ∧
          ∃ other, invocation.objects.activeDescendant next.world target = .ok (some other) ∧
            Gains .name (invocation.callOn "name" other) next := by
  unfold labelAndName at gains
  obtain ⟨label, between, labelled, gains⟩ := gains.of_bind_keeps (isRoutine_label.keeps target)
  obtain ⟨⟨own, answered, same⟩, rfl⟩ := label_eq_ok.mp labelled
  rcases gains.of_bind with named | ⟨told, next, ran, gains⟩
  · exact .inl named
  split at gains
  · rename_i cell
    simp only [Bool.and_eq_true, List.isEmpty_iff, decide_eq_true_eq] at cell
    obtain ⟨⟨rfl, rfl⟩, cell⟩ := cell
    obtain ⟨descendant, active, gains⟩ := gains.of_ask
    cases descendant with
    | none => exact absurd gains (not_gains_pure _)
    | some other =>
        rcases gains.of_bind with called | ⟨_, _, -, gains⟩
        · exact .inr ⟨cell, ⟨own, answered, same⟩, next, ran, other, active, called⟩
        · exact absurd gains (not_gains_pure _)
  · exact absurd gains (not_gains_pure _)

theorem climb_none (steps : Nat) (visited : List Target) :
    climb invocation steps visited none = pure [] := by
  cases steps <;> rfl

/-- A description leaves a mark only where it stands in for labels. -/
theorem gains_unrelatedLabelsOrDescription
    (gains : Gains .unrelatedLabels (unrelatedLabelsOrDescription target invocation) state) :
    (∃ labels, invocation.objects.unrelatedLabels state.world target = .ok labels ∧
      ∀ label ∈ labels, label = "") ∧ state.fallbacks.descriptionUsed = false ∧
      ∃ text, Adds invocation.objects state.world invocation.category
        (invocation.formatExpression.getD .empty) target text := by
  unfold unrelatedLabelsOrDescription at gains
  obtain ⟨labels, answered, gains⟩ := gains.of_ask
  cases told : (labels.filter (· ≠ "")).map Fragment.text with
  | cons first rest =>
      simp only [told, List.isEmpty_cons, Bool.not_false, if_true] at gains
      rcases gains.of_bind with ⟨-, impossible⟩ | ⟨_, _, -, gains⟩
      · cases impossible
      · exact absurd gains (not_gains_pure _)
  | nil =>
      simp only [told, List.isEmpty_nil, Bool.not_true, Bool.false_eq_true, if_false] at gains
      obtain ⟨described, between, ran, gains⟩ :=
        gains.of_bind_keeps (isRoutine_description.keeps target)
      cases described with
      | nil => exact absurd gains (not_gains_pure _)
      | cons first rest =>
          obtain ⟨unmarked, text, -, adds⟩ := adds_of_description ran (List.cons_ne_nil first rest)
          refine ⟨⟨labels, answered, fun label member => ?_⟩, unmarked, text, adds⟩
          have blank := List.filter_eq_nil_iff.mp (List.map_eq_nil_iff.mp told) label member
          simpa using blank

/-- The presentation of the active descendant leaves the marks that the nested pass leaves. -/
theorem gains_activeDescendant (gains : Gains mark (activeDescendant target invocation) state) :
    ∃ other, invocation.objects.activeDescendant state.world target = .ok (some other) ∧
      other ≠ target ∧
      Gains mark (invocation.host.resolve other invocation.context.withoutRole) state := by
  unfold activeDescendant at gains
  obtain ⟨descendant, active, gains⟩ := gains.of_ask
  cases descendant with
  | none => exact absurd gains (not_gains_pure _)
  | some other =>
      by_cases same : other = target
      · simp only [same, if_true] at gains
        exact absurd gains (not_gains_pure _)
      · simp only [same, if_false] at gains
        rcases gains.of_bind with resolves | ⟨_, _, -, gains⟩
        · exact ⟨other, active, same, resolves⟩
        · exact absurd gains (not_gains_pure _)

end Fields

namespace Engine

open Fields

variable {engine : Engine ω} {depth : Nat} {target other : Target} {context : Context}
  {key : FormatKey} {expression : Expr}

section Standard

variable (standard : engine.IsStandard)
include standard

/-- A quantity that is asked of another object leaves a mark as its field does. -/
theorem IsStandard.gains_callOn {name : String} {field : Provider ω}
    (provided : (.normalize name, field) ∈ quantities)
    (gains : Gains mark
      ((engine.invocation (engine.host depth) context key expression).callOn name other) state) :
    ∃ (category : Option Category) (below : Nat) (inner : Context) (own : FormatKey),
      engine.objects.category state.world other = .ok category ∧
      own.category = category.getD .unknown ∧
      Gains mark (field other (engine.invocation (engine.host below) inner own expression)) state := by
  cases depth with
  | zero => exact absurd gains (keeps_throw _).not_gains
  | succ below =>
      change Gains mark (engine.compute (engine.host below) key.mode expression name other
        context.withoutRole) state at gains
      unfold compute at gains
      rw [standard.provider?_eq_some.mpr provided] at gains
      have plain : engine.categoryOf other context.withoutRole =
        ask (engine.objects.category · other) := rfl
      rw [plain] at gains
      obtain ⟨category, answered, gains⟩ := gains.of_ask
      exact ⟨category, below, _, _, answered, rfl, gains.of_guarded⟩

theorem IsStandard.exists_namedBy
    (gains : Gains .name
      (Fields.name target (engine.invocation (engine.host depth) context key expression)) state) :
    ∃ owner, NamedBy engine.objects state.world owner key.category target := by
  rcases gains_name gains with ⟨text, back⟩ | ⟨icon, nameless, panel, held, isPanel, asked⟩
  · exact ⟨target, .own back⟩
  · obtain ⟨category, below, inner, own, answered, same, gains⟩ :=
      standard.gains_callOn mem_quantities_name asked
    cases isPanel.symm.trans answered
    have isOwn : own.category = .panel := same
    have icon : key.category = .icon := icon
    rw [icon]
    rcases gains_name gains with ⟨text, back⟩ | ⟨again, -⟩
    · have back : FallsBack engine.objects state.world own.category panel text := back
      rw [isOwn] at back
      exact ⟨panel, .holder nameless held isPanel back⟩
    · exact absurd (isOwn.symm.trans again) (by decide)

theorem IsStandard.exists_labelled
    (gains : Gains .name
      (labelAndName target (engine.invocation (engine.host depth) context key expression)) state) :
    ∃ owner, NamedBy engine.objects state.world owner key.category target ∨
      key.category = .tableCell ∧ CellNamedBy engine.objects state.world owner target := by
  rcases gains_labelAndName gains with named | ⟨cell, unlabelled, next, ran, other, active, called⟩
  · obtain ⟨owner, named⟩ := standard.exists_namedBy named
    exact ⟨owner, .inl named⟩
  · have cell : key.category = .tableCell := cell
    have allowed : key.category ≠ .label := by
      rw [cell]
      decide
    have kept : Keeps State.world
        (Fields.name target (engine.invocation (engine.host depth) context key expression)) :=
      (isRoutine_name (fun _ _ => rfl) (standard.keepsOn_world depth "name")).keeps target
    have same : next.world = state.world := kept.of_eq ran
    obtain ⟨category, below, inner, own, answered, isOwn, gains⟩ :=
      standard.gains_callOn mem_quantities_name called
    obtain ⟨owner, named⟩ := standard.exists_namedBy gains
    rw [same] at active answered named
    rw [isOwn] at named
    exact ⟨owner, .inr ⟨cell, unlabelled, nameless_of_name ran allowed, other, category, active,
      answered, named⟩⟩

/-- A panel that is asked for its label and name leaves the mark as its own name. -/
theorem IsStandard.fallsBack_of_panel {panel : Target}
    (isPanel : engine.objects.category state.world panel = .ok (some .panel))
    (gains : Gains .name ((engine.invocation (engine.host depth) context key expression).callOn
      "labelAndName" panel) state) :
    ∃ text, FallsBack engine.objects state.world .panel panel text := by
  obtain ⟨category, below, inner, own, answered, same, gains⟩ :=
    standard.gains_callOn mem_quantities_labelAndName gains
  cases isPanel.symm.trans answered
  have isOwn : own.category = .panel := same
  obtain ⟨owner, named | ⟨cell, -⟩⟩ := standard.exists_labelled gains
  · rw [isOwn] at named
    exact (named.of_ne (by decide)).2
  · exact absurd (isOwn.symm.trans cell) (by decide)

/-- A panel that is passed has nothing to say. -/
theorem IsStandard.silent_of_panel {panel : Target} {next : State ω}
    (isPanel : engine.objects.category state.world panel = .ok (some .panel))
    (ran : (engine.invocation (engine.host depth) context key expression).callOn "labelAndName" panel
      state = .ok [] next) :
    SaysNothing (engine.objects.label state.world panel) ∧
      Nameless engine.objects state.world panel := by
  obtain ⟨category, below, inner, own, answered, same, ran⟩ :=
    standard.callOn_eq_ok mem_quantities_labelAndName ran
  cases isPanel.symm.trans answered
  have isOwn : own.category = .panel := same
  unfold labelAndName at ran
  obtain ⟨label, between, labelled, ran⟩ := bind_eq_ok.mp ran
  obtain ⟨⟨text, told, silent⟩, rfl⟩ := label_eq_ok.mp labelled
  obtain ⟨name, between, named, ran⟩ := bind_eq_ok.mp ran
  have noCell : ¬ own.category = .tableCell := by
    rw [isOwn]
    decide
  split at ran
  · rename_i cell
    simp only [Bool.and_eq_true, decide_eq_true_eq] at cell
    exact absurd cell.2 noCell
  · obtain ⟨silence, -⟩ := pure_eq_ok.mp ran
    obtain ⟨rfl, rfl⟩ := joinLabelAndName_eq_nil silence
    have allowed : own.category ≠ .label := by
      rw [isOwn]
      decide
    exact ⟨⟨text, told, silent⟩, nameless_of_name named allowed⟩

theorem IsStandard.exists_climbsTo {steps : Nat} {visited : List Target} {current : Target}
    (gains : Gains .name (climb (engine.invocation (engine.host depth) context key expression) steps
      visited (some current)) state) :
    ∃ owner, ClimbsTo engine.objects state.world owner visited current := by
  induction steps generalizing visited current state with
  | zero => exact absurd gains (not_gains_pure _)
  | succ steps ih =>
      have further {between : State ω} (same : between.world = state.world)
          (fresh : current ∉ visited) (passed : Passed engine.objects state.world current)
          (gains : Gains .name (ask (engine.objects.parent · current) >>=
            climb (engine.invocation (engine.host depth) context key expression) steps
              (current :: visited)) between) :
          ∃ owner, ClimbsTo engine.objects state.world owner visited current := by
        obtain ⟨parent, above, gains⟩ := gains.of_ask
        cases parent with
        | none =>
            rw [climb_none] at gains
            exact absurd gains (not_gains_pure _)
        | some other =>
            obtain ⟨owner, climbs⟩ := ih gains
            rw [same] at above climbs
            exact ⟨owner, .further fresh passed above climbs⟩
      unfold climb at gains
      split at gains
      · exact absurd gains (not_gains_pure _)
      · rename_i seen
        have fresh : current ∉ visited := fun member => seen (List.contains_iff_mem.mpr member)
        obtain ⟨category, kind, gains⟩ := gains.of_ask
        split at gains
        · rename_i isPanel
          subst isPanel
          rcases gains.of_bind with asked | ⟨told, between, ran, gains⟩
          · obtain ⟨text, back⟩ := standard.fallsBack_of_panel kind asked
            exact ⟨current, .here fresh kind back⟩
          · have same : between.world = state.world :=
              (standard.keepsOn_world depth "labelAndName" _ _ _ _).of_eq ran
            cases told with
            | nil => exact further same fresh ⟨_, kind, fun _ => standard.silent_of_panel kind ran⟩ gains
            | cons first rest => exact absurd gains (not_gains_pure _)
        · rename_i other
          exact further rfl fresh ⟨category, kind, fun isPanel => absurd isPanel other⟩ gains

end Standard

end Engine
end Narration
