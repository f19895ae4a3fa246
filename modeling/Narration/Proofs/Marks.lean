import Narration.Proofs.StandardFields
/-! Which quantities set and clear the marks of a pass, and when the description is told. -/
namespace Narration.Fields

variable {ω : Type} {target : Target} {invocation : Invocation ω} {state next : State ω}
  {value : List Fragment} {text : String}

/-- The name of an object is taken from its description, which is `text`. -/
structure FallsBack (objects : ObjectModel ω) (world : ω) (category : Category) (target : Target)
    (text : String) : Prop where
  allowed : category ≠ .label
  nameless : ∃ name, objects.name world target = .ok name ∧ textOf name = []
  described : objects.description world target = .ok (some text)
  nonempty : text ≠ ""

/-- What the description of an object is compared with. -/
def shownName (objects : ObjectModel ω) (category : Category) (world : ω) (target : Target) :
    Query (Option String) :=
  if category = .icon then objects.displayedText world target else objects.name world target

/-- The description of an object is `text` and says something that `expression` does not say anyway. -/
structure Adds (objects : ObjectModel ω) (world : ω) (category : Category) (expression : Expr)
    (target : Target) (text : String) : Prop where
  allowed : category ≠ .label
  described : objects.description world target = .ok (some text)
  nonempty : text ≠ ""
  new : ∃ name label, shownName objects category world target = .ok name ∧
    objects.label world target = .ok label ∧
    addsTo expression (Text.lowercase (label.getD "")) (Text.lowercase (name.getD ""))
      (Text.lowercase text)

theorem name_of_fallsBack
    (back : FallsBack invocation.objects state.world invocation.category target text) :
    name target invocation state =
      .ok [.text text] { state with fallbacks := state.fallbacks.set .name true } := by
  obtain ⟨allowed, ⟨own, named, nameless⟩, described, nonempty⟩ := back
  have cleared : setFallback .name false state =
      .ok () { state with fallbacks := state.fallbacks.set .name false } := rfl
  have marked : setFallback .name true { state with fallbacks := state.fallbacks.set .name false } =
      .ok () { state with fallbacks := state.fallbacks.set .name true } := rfl
  have spoken : textOf (some text) = [.text text] := if_neg nonempty
  unfold name
  rw [bind_of_ok cleared, bind_of_ok (ask_of_ok named)]
  simp only [nameless, List.isEmpty_nil, Bool.not_true, Bool.false_eq_true, if_false, if_pos allowed]
  rw [bind_of_ok (ask_of_ok described)]
  simp only [spoken, List.isEmpty_cons, Bool.not_false, if_true]
  rw [bind_of_ok marked]
  rfl

theorem label_eq_ok :
    label target invocation state = .ok value next ↔
      (∃ own, invocation.objects.label state.world target = .ok own ∧ textOf own = value) ∧
        state = next := by
  unfold label
  rw [bind_eq_ok]
  constructor
  · rintro ⟨own, between, asked, said⟩
    obtain ⟨answered, rfl⟩ := ask_eq_ok.mp asked
    obtain ⟨same, rfl⟩ := pure_eq_ok.mp said
    exact ⟨⟨own, answered, same⟩, rfl⟩
  · rintro ⟨⟨own, answered, rfl⟩, rfl⟩
    exact ⟨own, state, ask_of_ok answered, rfl⟩

theorem labelAndName_of_fallsBack
    (back : FallsBack invocation.objects state.world invocation.category target text)
    (ran : labelAndName target invocation state = .ok value next) :
    next.fallbacks.forName = true := by
  unfold labelAndName at ran
  obtain ⟨label, between, labelled, ran⟩ := bind_eq_ok.mp ran
  obtain ⟨-, rfl⟩ := label_eq_ok.mp labelled
  rw [bind_of_ok (name_of_fallsBack back)] at ran
  simp only [List.isEmpty_cons, Bool.and_false, Bool.false_and, Bool.false_eq_true, if_false] at ran
  obtain ⟨-, rfl⟩ := pure_eq_ok.mp ran
  rfl

/-- The label is taken, or else the name is. -/
theorem labelOrName_cases (ran : labelOrName target invocation state = .ok value next) :
    ∃ own, invocation.objects.label state.world target = .ok own ∧
      ((textOf own ≠ [] ∧ state = next) ∨
        textOf own = [] ∧ name target invocation state = .ok value next) := by
  unfold labelOrName at ran
  obtain ⟨label, between, labelled, ran⟩ := bind_eq_ok.mp ran
  obtain ⟨⟨own, answered, same⟩, rfl⟩ := label_eq_ok.mp labelled
  refine ⟨own, answered, ?_⟩
  rw [same]
  cases label with
  | nil => exact .inr ⟨rfl, ran⟩
  | cons first rest => exact .inl ⟨List.cons_ne_nil _ _, (pure_eq_ok.mp ran).2⟩

theorem unrelatedLabelsOrDescription_cases
    (unlabelled : ∃ labels, invocation.objects.unrelatedLabels state.world target = .ok labels ∧
      ∀ label ∈ labels, label = "")
    (ran : unrelatedLabelsOrDescription target invocation state = .ok value next) :
    (value = [] ∧ state = next) ∨
      { state with fallbacks := state.fallbacks.set .unrelatedLabels true } = next := by
  obtain ⟨labels, answered, blank⟩ := unlabelled
  have silent : (labels.filter (· ≠ "")).map Fragment.text = [] := by
    rw [List.map_eq_nil_iff, List.filter_eq_nil_iff]
    intro label member
    simp [blank label member]
  unfold unrelatedLabelsOrDescription at ran
  rw [bind_of_ok (ask_of_ok answered)] at ran
  simp only [silent, List.isEmpty_nil, Bool.not_true, Bool.false_eq_true, if_false] at ran
  obtain ⟨told, between, described, ran⟩ := bind_eq_ok.mp ran
  have same : between = state :=
    (isRoutine_description.keeps target : Keeps (fun state => state) _).of_eq described
  subst same
  cases told with
  | nil =>
      obtain ⟨rfl, rfl⟩ := pure_eq_ok.mp ran
      exact .inl ⟨rfl, rfl⟩
  | cons first rest =>
      obtain ⟨_, marked, marking, ran⟩ := bind_eq_ok.mp ran
      obtain ⟨-, rfl⟩ := pure_eq_ok.mp ran
      exact .inr (setFallback_eq_ok.mp marking)

section Description

theorem description_of_marked (marked : state.fallbacks.descriptionUsed) :
    description target invocation state = .ok [] state := by
  have marks : getFallbacks state = .ok state.fallbacks state := rfl
  unfold description
  rw [bind_of_ok marks, if_pos marked]
  rfl

/-- Where neither marks nor the category forbid it, a description is only left out for its words. -/
theorem description_of_described (unmarked : state.fallbacks.descriptionUsed = false)
    (allowed : invocation.category ≠ .label)
    (described : invocation.objects.description state.world target = .ok (some text))
    (nonempty : text ≠ "") :
    description target invocation state = (do
      let name ← ask (shownName invocation.objects invocation.category · target)
      let label ← ask (invocation.objects.label · target)
      if addsTo (invocation.formatExpression.getD .empty) (Text.lowercase (label.getD ""))
          (Text.lowercase (name.getD "")) (Text.lowercase text) then
        return [Fragment.text text]
      return []) state := by
  have marks : getFallbacks state = .ok state.fallbacks state := rfl
  have kept : (some text).filter (· ≠ "") = some text := by simp [nonempty]
  unfold description
  rw [bind_of_ok marks]
  simp only [unmarked, Bool.false_eq_true, if_false, if_neg allowed]
  rw [bind_of_ok (ask_of_ok described)]
  simp only [kept, shownName]
  split <;> rfl

theorem description_of_adds (unmarked : state.fallbacks.descriptionUsed = false)
    (adds : Adds invocation.objects state.world invocation.category
      (invocation.formatExpression.getD .empty) target text) :
    description target invocation state = .ok [.text text] state := by
  obtain ⟨allowed, described, nonempty, name, label, named, labelled, new⟩ := adds
  rw [description_of_described unmarked allowed described nonempty, bind_of_ok (ask_of_ok named),
    bind_of_ok (ask_of_ok labelled), if_pos new]
  rfl

/-- Where the description is told, no mark is set, and it adds something. -/
theorem adds_of_description (ran : description target invocation state = .ok value next)
    (told : value ≠ []) :
    state.fallbacks.descriptionUsed = false ∧
      ∃ text, value = [.text text] ∧ Adds invocation.objects state.world invocation.category
        (invocation.formatExpression.getD .empty) target text := by
  have silent {between : State ω} (left : (pure [] : Action (State ω) (List Fragment)) between =
      .ok value next) : False := told (pure_eq_ok.mp left).1.symm
  cases marked : state.fallbacks.descriptionUsed with
  | true =>
      rw [description_of_marked marked] at ran
      exact (silent ran).elim
  | false =>
      have start := ran
      have marks : getFallbacks state = .ok state.fallbacks state := rfl
      unfold description at start
      rw [bind_of_ok marks] at start
      simp only [marked, Bool.false_eq_true, if_false] at start
      by_cases allowed : invocation.category = .label
      · rw [if_pos allowed] at start
        exact (silent start).elim
      rw [if_neg allowed] at start
      obtain ⟨described, between, asked, goes⟩ := bind_eq_ok.mp start
      obtain ⟨answered, rfl⟩ := ask_eq_ok.mp asked
      cases kept : described.filter (· ≠ "") with
      | none =>
          simp only [kept] at goes
          exact (silent goes).elim
      | some text =>
          obtain ⟨rfl, nonempty⟩ := Option.filter_eq_some_iff.mp kept
          have nonempty : text ≠ "" := of_decide_eq_true nonempty
          rw [description_of_described marked allowed answered nonempty] at ran
          obtain ⟨name, between, asked, ran⟩ := bind_eq_ok.mp ran
          obtain ⟨named, rfl⟩ := ask_eq_ok.mp asked
          obtain ⟨label, between, asked, ran⟩ := bind_eq_ok.mp ran
          obtain ⟨labelled, rfl⟩ := ask_eq_ok.mp asked
          split at ran
          · rename_i new
            obtain ⟨rfl, -⟩ := pure_eq_ok.mp ran
            exact ⟨rfl, text, rfl, allowed, answered, nonempty, name, label, named, labelled, new⟩
          · exact (silent ran).elim

end Description

end Narration.Fields

namespace Narration.Engine

open Fields

variable {ω : Type} {engine : Engine ω} {depth : Nat} {target : Target} {context : Context}
  {key : FormatKey} {expression : Expr} {state next : State ω} {value : List Fragment}

/-- The objects around `target`, from its parent on. -/
inductive Around (objects : ObjectModel ω) (world : ω) (target : Target) : Target → Prop
  | parent {other : Target} (above : objects.parent world target = .ok (some other)) :
      Around objects world target other
  | further {between other : Target} (around : Around objects world target between)
      (above : objects.parent world between = .ok (some other)) : Around objects world target other

/-- There is a panel around `target` whose name is not taken from its description. -/
def HasOwnPanel (objects : ObjectModel ω) (world : ω) (target : Target) : Prop :=
  ∃ panel, Around objects world target panel ∧ objects.category world panel = .ok (some .panel) ∧
    ∀ text, ¬ FallsBack objects world .panel panel text

theorem IsStandard.keepsOn_world (standard : engine.IsStandard) (depth : Nat) (name : String) :
    (engine.host depth).KeepsOn name State.world :=
  (standard.keeps_host (fun _ _ => rfl) (fun _ _ => rfl) depth).1 name

/-- A panel that is asked for its label and name and takes the name from its description leaves the
mark set. -/
theorem IsStandard.forName_of_panel (standard : engine.IsStandard) {panel : Target} {text : String}
    (isPanel : engine.objects.category state.world panel = .ok (some .panel))
    (back : FallsBack engine.objects state.world .panel panel text)
    (ran : (engine.invocation (engine.host depth) context key expression).callOn "labelAndName" panel
      state = .ok value next) : next.fallbacks.forName = true := by
  obtain ⟨category, below, inner, own, answered, same, computed⟩ :=
    standard.callOn_eq_ok mem_quantities_labelAndName ran
  rw [isPanel] at answered
  cases answered
  have category : own.category = .panel := same
  rw [← category] at back
  exact labelAndName_of_fallsBack back computed

theorem IsStandard.hasOwnPanel_of_climb (standard : engine.IsStandard) {steps : Nat}
    {visited : List Target} {current : Option Target}
    (reached : ∀ other, current = some other → Around engine.objects state.world target other)
    (ran : climb (engine.invocation (engine.host depth) context key expression) steps visited current
      state = .ok value next)
    (marked : state.fallbacks.forName = true) (lost : next.fallbacks.forName = false) :
    HasOwnPanel engine.objects state.world target := by
  have unlost {after : State ω} (still : after.fallbacks.forName = true) (same : after = next) :
      False := by
    subst same
    rw [still] at lost
    cases lost
  induction steps generalizing visited current state with
  | zero => exact (unlost marked (pure_eq_ok.mp ran).2).elim
  | succ steps ih =>
      cases current with
      | none => exact (unlost marked (pure_eq_ok.mp ran).2).elim
      | some current =>
          have around := reached current rfl
          have further {after : State ω} (same : after.world = state.world)
              (still : after.fallbacks.forName = true)
              (goes : (ask (engine.objects.parent · current) >>=
                climb (engine.invocation (engine.host depth) context key expression) steps
                  (current :: visited)) after = .ok value next) :
              HasOwnPanel engine.objects state.world target := by
            obtain ⟨parent, between, asked, climbed⟩ := bind_eq_ok.mp goes
            obtain ⟨answered, rfl⟩ := ask_eq_ok.mp asked
            rw [same] at answered
            rw [← same]
            refine ih (fun other here => ?_) climbed still
            subst here
            rw [same]
            exact .further around answered
          unfold climb at ran
          split at ran
          · exact (unlost marked (pure_eq_ok.mp ran).2).elim
          · obtain ⟨category, between, asked, ran⟩ := bind_eq_ok.mp ran
            obtain ⟨answered, rfl⟩ := ask_eq_ok.mp asked
            split at ran
            · rename_i isPanel
              subst isPanel
              obtain ⟨label, between, called, ran⟩ := bind_eq_ok.mp ran
              have same : between.world = state.world :=
                (standard.keepsOn_world depth "labelAndName" _ _ _ _).of_eq called
              cases still : between.fallbacks.forName with
              | false =>
                  refine ⟨current, around, answered, fun text back => ?_⟩
                  rw [standard.forName_of_panel answered back called] at still
                  cases still
              | true =>
                  split at ran
                  · exact (unlost still (pure_eq_ok.mp ran).2).elim
                  · exact further same still ran
            · exact further rfl marked ran

section Losses

variable {called : QuantityName} {field : Provider ω}
  (standard : engine.IsStandard) (provided : engine.registry.provider? called = some field)
  (ran : field target (engine.invocation (engine.host depth) context key expression) state =
    .ok value next)
include standard provided ran

/-- Once the name of the target is taken from its description, the mark for it is lost to no quantity of
the target itself: only the panels around it and the presentation of its active descendant clear it. -/
theorem IsStandard.loses_name {text : String}
    (back : FallsBack engine.objects state.world key.category target text)
    (marked : state.fallbacks.forName = true) (lost : next.fallbacks.forName = false) :
    called = ⟨"activeDescendant"⟩ ∨
      called = ⟨"namedContainingPanel"⟩ ∧ HasOwnPanel engine.objects state.world target := by
  have unlost {after : State ω} (still : after.fallbacks.forName = true) (same : after = next) :
      called = ⟨"activeDescendant"⟩ ∨
        called = ⟨"namedContainingPanel"⟩ ∧ HasOwnPanel engine.objects state.world target := by
    subst same
    rw [still] at lost
    cases lost
  rcases isQuiet_or_isMarking (standard.provider?_eq_some.mp provided) with quiet | marking
  · have kept : Keeps (fun state : State ω => state.fallbacks.forName)
        (field target (engine.invocation (engine.host depth) context key expression)) :=
      standard.keeps_of_isQuiet quiet (IgnoresTracker.asking (fun _ _ => rfl) _) depth target context
        key expression
    exact unlost ((kept.of_eq ran).trans marked) rfl
  · cases marking with
    | name =>
        rw [name_of_fallsBack back] at ran
        cases ran
        exact unlost rfl rfl
    | labelOrName =>
        obtain ⟨own, -, ⟨-, same⟩ | ⟨-, named⟩⟩ := labelOrName_cases ran
        · exact unlost marked same
        · rw [name_of_fallsBack back] at named
          cases named
          exact unlost rfl rfl
    | labelAndName => exact unlost (labelAndName_of_fallsBack back ran) rfl
    | unrelatedLabelsOrDescription =>
        have kept : Keeps (fun state : State ω => state.fallbacks.forName)
            (unrelatedLabelsOrDescription target
              (engine.invocation (engine.host depth) context key expression)) :=
          (isRoutine_unrelatedLabelsOrDescription fun _ _ => rfl).keeps _
        exact unlost ((kept.of_eq ran).trans marked) rfl
    | namedContainingPanel =>
        obtain ⟨parent, between, asked, climbed⟩ := bind_eq_ok.mp ran
        obtain ⟨answered, rfl⟩ := ask_eq_ok.mp asked
        have reached : ∀ other, parent = some other →
            Around engine.objects state.world target other := by
          rintro other rfl
          exact .parent answered
        exact .inr ⟨rfl, standard.hasOwnPanel_of_climb reached climbed marked lost⟩
    | activeDescendant => exact .inl rfl

/-- Once the description of the target stands in for labels, only the presentation of its active
descendant clears the mark for it. -/
theorem IsStandard.loses_unrelatedLabels
    (unlabelled : ∃ labels, engine.objects.unrelatedLabels state.world target = .ok labels ∧
      ∀ label ∈ labels, label = "")
    (marked : state.fallbacks.forUnrelatedLabels = true)
    (lost : next.fallbacks.forUnrelatedLabels = false) : called = ⟨"activeDescendant"⟩ := by
  let part (state : State ω) : Bool := state.fallbacks.forUnrelatedLabels
  have unlost (kept : Keeps part
      (field target (engine.invocation (engine.host depth) context key expression))) :
      called = ⟨"activeDescendant"⟩ := by
    have same : next.fallbacks.forUnrelatedLabels = state.fallbacks.forUnrelatedLabels :=
      kept.of_eq ran
    rw [same, marked] at lost
    cases lost
  have unnamed : IgnoresMark .name part := fun _ _ => rfl
  rcases isQuiet_or_isMarking (standard.provider?_eq_some.mp provided) with quiet | marking
  · exact unlost (standard.keeps_of_isQuiet quiet (IgnoresTracker.asking (fun _ _ => rfl) _) depth target
      context key expression)
  · cases marking with
    | name => exact unlost ((isRoutine_name unnamed (standard.keepsOn_name unnamed depth)).keeps _)
    | labelOrName =>
        exact unlost ((isRoutine_labelOrName unnamed (standard.keepsOn_name unnamed depth)).keeps _)
    | labelAndName =>
        exact unlost ((isRoutine_labelAndName unnamed (standard.keepsOn_name unnamed depth)).keeps _)
    | unrelatedLabelsOrDescription =>
        rcases unrelatedLabelsOrDescription_cases unlabelled ran with ⟨-, rfl⟩ | rfl
        · rw [marked] at lost
          cases lost
        · cases lost
    | namedContainingPanel =>
        exact unlost
          ((isRoutine_namedContainingPanel (standard.keepsOn_labelAndName unnamed depth)).keeps _)
    | activeDescendant => rfl

end Losses

end Narration.Engine
