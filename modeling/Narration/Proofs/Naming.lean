import Narration.Proofs.Runs
import Narration.Proofs.StandardFields
/-! What objects are called, told by the queries alone. The label and name of an object say every word of
both, and break down only where a query does. -/
namespace Narration

variable {ω α β γ : Type} {world : ω}

/-- In this world, a computation comes to what a query answers and breaks down where it does. -/
structure ComesTo (world : ω) (query : Query α) (action : Action (State ω) α) : Prop where
  answered {state : State ω} {value : α} : state.world = world → query = .ok value →
    ∃ next, action state = .ok value next ∧ next.world = world
  broken {state : State ω} {message : String} : state.world = world → query = .error message →
    ∃ halt next, action state = .error halt next ∧
      (halt = .fault message ∨ halt = .field (.panicked message))

section Computations

variable {query : Query α} {action : Action (State ω) α}

theorem comesTo_pure (value : α) : ComesTo world (.ok value) (pure value) where
  answered := by
    rintro state _ rfl ⟨⟩
    exact ⟨state, rfl, rfl⟩
  broken _ none := nomatch none

theorem comesTo_ask (query : ω → Query α) : ComesTo world (query world) (ask query) where
  answered := by
    rintro state value rfl answered
    exact ⟨state, ask_of_ok answered, rfl⟩
  broken := by
    rintro state message rfl broken
    exact ⟨_, state, ask_of_error broken, .inl rfl⟩

theorem comesTo_ask_of_ok (query : ω → Query α) {value : α} (answered : query world = .ok value) :
    ComesTo world (.ok value) (ask query) :=
  answered ▸ comesTo_ask query

theorem ComesTo.bind (first : ComesTo world query action) {after : α → Query β}
    {rest : α → Action (State ω) β}
    (later : ∀ value, query = .ok value → ComesTo world (after value) (rest value)) :
    ComesTo world (query >>= after) (action >>= rest) where
  answered {state result} here done := by
    cases query with
    | error message => cases done
    | ok value =>
        obtain ⟨between, ran, same⟩ := first.answered here rfl
        obtain ⟨next, further, still⟩ := (later value rfl).answered same done
        exact ⟨next, (bind_of_ok ran rest).trans further, still⟩
  broken {state message} here broke := by
    cases query with
    | error other =>
        cases broke
        obtain ⟨halt, next, ran, kind⟩ := first.broken here rfl
        exact ⟨halt, next, bind_of_error ran rest, kind⟩
    | ok value =>
        obtain ⟨between, ran, same⟩ := first.answered here rfl
        obtain ⟨halt, next, further, kind⟩ := (later value rfl).broken same broke
        exact ⟨halt, next, (bind_of_ok ran rest).trans further, kind⟩

theorem ComesTo.bind_of_ok {value : α} (first : ComesTo world (.ok value) action)
    {after : Query β} {rest : α → Action (State ω) β} (later : ComesTo world after (rest value)) :
    ComesTo world after (action >>= rest) := by
  have goes : ComesTo world (.ok value >>= fun _ => after) (action >>= rest) := by
    apply first.bind
    intro found same
    cases same
    exact later
  exact goes

theorem ComesTo.bind_map {value : α → γ} {action : Action (State ω) γ}
    (first : ComesTo world (value <$> query) action) {after : α → Query β}
    {rest : γ → Action (State ω) β}
    (later : ∀ found, query = .ok found → ComesTo world (after found) (rest (value found))) :
    ComesTo world (query >>= after) (action >>= rest) := by
  cases query with
  | error message =>
      have goes : ComesTo world ((value <$> .error message) >>= fun _ => .error message)
          (action >>= rest) := first.bind fun _ none => nomatch none
      exact goes
  | ok found => exact ComesTo.bind_of_ok first (later found rfl)

/-- Marks are nothing that a query asks for. -/
theorem ComesTo.marking (comes : ComesTo world query action) (mark : Fallback) (value : Bool) :
    ComesTo world query (setFallback mark value >>= fun _ => action) where
  answered here done := comes.answered here done
  broken here broke := comes.broken here broke

theorem ComesTo.guarded (comes : ComesTo world query action) : ComesTo world query (guarded action) where
  answered here done := by
    obtain ⟨next, ran, same⟩ := comes.answered here done
    exact ⟨next, guarded_eq_ok.mpr ran, same⟩
  broken {state message} here broke := by
    obtain ⟨halt, next, ran, rfl | rfl⟩ := comes.broken here broke
    · exact ⟨.field (.panicked message), next, by rw [Narration.guarded, ran], .inr rfl⟩
    · exact ⟨.field (.panicked message), next, by rw [Narration.guarded, ran], .inr rfl⟩

theorem ComesTo.eq_error (comes : ComesTo world query action) {state next : State ω} {halt : Halt}
    (here : state.world = world) (ran : action state = .error halt next) :
    ∃ message, query = .error message := by
  cases query with
  | error message => exact ⟨message, rfl⟩
  | ok value =>
      obtain ⟨after, done, -⟩ := comes.answered here rfl
      rw [ran] at done
      cases done

end Computations

namespace Fields

section Names

/-- A text with characters is one fragment. -/
def spoken (text : String) : List Fragment := if text = "" then [] else [.text text]

/-- The text that a query tells, which is empty if there is none. -/
def told (query : Query (Option String)) : Query String := query.map (·.getD "")

/-- The first text that is not empty. The second query is put only if the first tells none. -/
def firstTold : Query String → Query String → Query String
  | .error message, _ => .error message
  | .ok text, second => if text = "" then second else .ok text

variable (objects : ObjectModel ω) (world : ω)

/-- The name of an object, or else its description, which labels do not use. -/
def ownName (category : Category) (target : Target) : Query String :=
  firstTold (told (objects.name world target))
    (if category = .label then .ok "" else told (objects.description world target))

/-- The name of the panel that directly holds an object, if a panel does. -/
def holderName (target : Target) : Query String := do
  match ← objects.parent world target with
  | none => .ok ""
  | some parent =>
    if (← objects.category world parent) = some .panel then ownName objects world .panel parent
    else .ok ""

/-- What an object is called under a category. An icon without a name of its own takes the one of the
panel that holds it. -/
def nameUnder (category : Category) (target : Target) : Query String :=
  firstTold (ownName objects world category target)
    (if category = .icon then holderName objects world target else .ok "")

/-- What the active descendant is called under its own category. -/
def descendantName (target : Target) : Query String := do
  match ← objects.activeDescendant world target with
  | none => .ok ""
  | some descendant =>
    nameUnder objects world ((← objects.category world descendant).getD .unknown) descendant

/-- What an object is called beside its label. A table cell without label and name is called as its
active descendant is. -/
def nameBeside (label : String) (category : Category) (target : Target) : Query String :=
  firstTold (nameUnder objects world category target)
    (if label = "" ∧ category = .tableCell then descendantName objects world target else .ok "")

/-- The displayed label of an object. -/
def labelOf (target : Target) : Query String := told (objects.label world target)

/-- Label and name of an object under a category. -/
def labelAndNameOf (category : Category) (target : Target) : Query (List Fragment) := do
  let label ← labelOf objects world target
  let name ← nameBeside objects world label category target
  return joinLabelAndName (spoken label) (spoken name)

end Names

theorem textOf_eq (answer : Option String) : textOf answer = spoken (answer.getD "") := by
  cases answer <;> rfl

theorem spoken_eq_nil {text : String} : spoken text = [] ↔ text = "" := by
  unfold spoken
  split <;> simp_all

section Rules

variable {first second third : Query String}

theorem firstTold_assoc :
    firstTold (firstTold first second) third = firstTold first (firstTold second third) := by
  cases first with
  | error message => rfl
  | ok text =>
      rw [firstTold, firstTold]
      split
      · rfl
      · rename_i nonempty
        rw [firstTold, if_neg nonempty]

theorem firstTold_of_empty : firstTold (.ok "") second = second := by
  rw [firstTold, if_pos rfl]

theorem firstTold_empty : firstTold first (.ok "") = first := by
  cases first with
  | error message => rfl
  | ok text =>
      rw [firstTold]
      split
      · rename_i empty
        rw [empty]
      · rfl

theorem firstTold_bind {α : Type} (after : String → Query α) :
    firstTold first second >>= after =
      first >>= fun text => (if text = "" then second else .ok text) >>= after := by
  cases first <;> rfl

theorem nameUnder_of_ne (objects : ObjectModel ω) (world : ω) {category : Category}
    (apart : category ≠ .icon) (target : Target) :
    nameUnder objects world category target = ownName objects world category target := by
  rw [nameUnder, if_neg apart]
  exact firstTold_empty

section LabelAndName

variable {objects : ObjectModel ω} {category : Category} {target : Target} {label name message : String}

theorem labelAndNameOf_of_label (labelled : labelOf objects world target = .ok label) :
    labelAndNameOf objects world category target =
      (fun name => joinLabelAndName (spoken label) (spoken name)) <$>
        nameBeside objects world label category target := by
  rw [labelAndNameOf, labelled]
  rfl

theorem labelAndNameOf_eq_ok (labelled : labelOf objects world target = .ok label)
    (named : nameBeside objects world label category target = .ok name) :
    labelAndNameOf objects world category target =
      .ok (joinLabelAndName (spoken label) (spoken name)) := by
  rw [labelAndNameOf_of_label labelled, named]
  rfl

theorem cases_of_labelAndNameOf_error
    (broken : labelAndNameOf objects world category target = .error message) :
    labelOf objects world target = .error message ∨
      ∃ label, labelOf objects world target = .ok label ∧
        nameBeside objects world label category target = .error message := by
  cases labelled : labelOf objects world target with
  | error other =>
      rw [labelAndNameOf, labelled] at broken
      cases broken
      exact .inl rfl
  | ok label =>
      refine .inr ⟨label, rfl, ?_⟩
      rw [labelAndNameOf_of_label labelled] at broken
      cases named : nameBeside objects world label category target with
      | error other =>
          rw [named] at broken
          cases broken
          rfl
      | ok name =>
          rw [named] at broken
          cases broken

end LabelAndName

end Rules

section Naming

variable {target : Target} {invocation : Invocation ω} {world : ω} {second : Query String}

/-- A text is spoken, or where there is none something else comes second. -/
theorem comesTo_firstTold (query : ω → Query (Option String))
    (done : List Fragment → Action (State ω) (List Fragment))
    {otherwise : Action (State ω) (List Fragment)}
    (found : ∀ text, ComesTo world (.ok (spoken text)) (done (spoken text)))
    (later : ComesTo world (spoken <$> second) otherwise) :
    ComesTo world (spoken <$> firstTold (told (query world)) second) (ask query >>= fun answer =>
      if !(textOf answer).isEmpty then done (textOf answer) else otherwise) := by
  have same : spoken <$> firstTold (told (query world)) second = query world >>= fun answer =>
      if answer.getD "" = "" then spoken <$> second else .ok (spoken (answer.getD "")) := by
    cases query world with
    | error message => rfl
    | ok answer =>
        change spoken <$> (if answer.getD "" = "" then second else .ok (answer.getD "")) =
          if answer.getD "" = "" then spoken <$> second else .ok (spoken (answer.getD ""))
        split <;> rfl
  rw [same]
  refine (comesTo_ask query).bind fun answer _ => ?_
  rw [textOf_eq]
  by_cases empty : answer.getD "" = ""
  · rw [if_pos empty, if_neg (by simp [spoken, empty])]
    exact later
  · rw [if_neg empty, if_pos (by simp [spoken, empty])]
    exact found _

theorem comesTo_label :
    ComesTo world (spoken <$> labelOf invocation.objects world target) (label target invocation) := by
  have same : spoken <$> labelOf invocation.objects world target =
      invocation.objects.label world target >>= fun answer => .ok (textOf answer) := by
    rw [labelOf]
    cases invocation.objects.label world target with
    | error message => rfl
    | ok answer => exact congrArg Except.ok (textOf_eq answer).symm
  rw [same]
  exact (comesTo_ask (invocation.objects.label · target)).bind fun answer _ => comesTo_pure _

/-- The name rule, where an icon can ask the panel that holds it. -/
theorem comesTo_name (target : Target) (invocation : Invocation ω)
    (asks : invocation.category = .icon → ∀ panel,
      invocation.objects.category world panel = .ok (some .panel) →
      ComesTo world (spoken <$> ownName invocation.objects world .panel panel)
        (invocation.callOn "name" panel)) :
    ComesTo world (spoken <$> nameUnder invocation.objects world invocation.category target)
      (name target invocation) := by
  rw [nameUnder, ownName, firstTold_assoc]
  unfold name
  refine ComesTo.marking ?_ .name false
  dsimp only
  refine comesTo_firstTold (invocation.objects.name · target) pure (fun text => comesTo_pure _) ?_
  by_cases allowed : invocation.category = .label
  case' pos => rw [if_pos allowed, if_neg (not_not_intro allowed), firstTold_of_empty]
  case' neg =>
    rw [if_neg allowed, if_pos allowed]
    refine comesTo_firstTold (invocation.objects.description · target)
      (fun said => setFallback .name true >>= fun _ => pure said)
      (fun text => (comesTo_pure _).marking .name true) ?_
  -- With and without a look at the description, what is left is the name of the panel around an icon.
  all_goals
    by_cases icon : invocation.category = .icon
    · simp only [icon, if_true, holderName, map_bind]
      refine (comesTo_ask (invocation.objects.parent · target)).bind fun parent _ => ?_
      cases parent with
      | none => exact comesTo_pure _
      | some parent =>
          simp only [map_bind]
          refine (comesTo_ask (invocation.objects.category · parent)).bind fun category kind => ?_
          by_cases isPanel : category = some .panel
          · subst isPanel
            exact asks icon parent kind
          · rw [if_neg isPanel, if_neg isPanel]
            exact comesTo_pure _
    · simp only [icon, if_false]
      exact comesTo_pure _

/-- Label and name, where icons and cells can ask the objects whose names they take. -/
theorem comesTo_labelAndName (target : Target) (invocation : Invocation ω)
    (asksHolder : invocation.category = .icon → ∀ panel,
      invocation.objects.category world panel = .ok (some .panel) →
      ComesTo world (spoken <$> ownName invocation.objects world .panel panel)
        (invocation.callOn "name" panel))
    (asksDescendant : invocation.category = .tableCell → ∀ other,
      ComesTo world (spoken <$> (invocation.objects.category world other >>= fun kind =>
        nameUnder invocation.objects world (kind.getD .unknown) other))
        (invocation.callOn "name" other)) :
    ComesTo world (labelAndNameOf invocation.objects world invocation.category target)
      (labelAndName target invocation) := by
  unfold labelAndNameOf labelAndName
  refine comesTo_label.bind_map fun label _ => ?_
  rw [nameBeside, firstTold_bind]
  refine (comesTo_name target invocation asksHolder).bind_map fun name _ => ?_
  have silent : ((spoken label).isEmpty && (spoken name).isEmpty &&
      decide (invocation.category = .tableCell)) = true ↔
      label = "" ∧ name = "" ∧ invocation.category = .tableCell := by
    simp only [Bool.and_eq_true, List.isEmpty_iff, spoken_eq_nil, decide_eq_true_eq, and_assoc]
  by_cases cell : label = "" ∧ name = "" ∧ invocation.category = .tableCell
  · simp only [if_pos (silent.mpr cell)]
    obtain ⟨rfl, rfl, cell⟩ := cell
    rw [if_pos rfl, if_pos ⟨rfl, cell⟩, descendantName, bind_assoc]
    refine (comesTo_ask (invocation.objects.activeDescendant · target)).bind fun descendant _ => ?_
    cases descendant with
    | none => exact comesTo_pure _
    | some descendant => exact (asksDescendant cell descendant).bind_map fun name _ => comesTo_pure _
  · have kept : (if name = "" then
        if label = "" ∧ invocation.category = .tableCell then
          descendantName invocation.objects world target
        else .ok ""
        else .ok name) = .ok name := by
      by_cases empty : name = ""
      · rw [if_pos empty, if_neg fun both => cell ⟨both.1, empty, both.2⟩, empty]
      · rw [if_neg empty]
    rw [kept, if_neg (mt silent.mp cell)]
    exact comesTo_pure _

end Naming

section Words

open Text

variable {label name : String} {word : List Char}

/-- A text among the fragments has this word. -/
def SaysWord (fragments : List Fragment) (word : List Char) : Prop :=
  ∃ text, .text text ∈ fragments ∧ IsWord word text

theorem not_saysWord_nil : ¬ SaysWord [] word := fun ⟨_, member, _⟩ => nomatch member

theorem saysWord_cons {text : String} {rest : List Fragment} :
    SaysWord (.text text :: rest) word ↔ IsWord word text ∨ SaysWord rest word := by
  simp [SaysWord, or_and_right, exists_or]

theorem saysWord_spoken {text : String} : SaysWord (spoken text) word ↔ IsWord word text := by
  by_cases empty : text = ""
  · subst empty
    have wordless : ¬ IsWord word "" := not_isRun_nil
    exact iff_of_false not_saysWord_nil wordless
  · rw [spoken, if_neg empty, saysWord_cons, or_iff_left not_saysWord_nil]

theorem isRedundant_iff : isRedundant name label ↔ ∀ word, IsWord word name → IsWord word label := by
  simp only [isRedundant, List.all_eq_true, List.contains_iff_mem, mem_words_iff]

/-- A label comes first, and a name that adds no word to it is left out. -/
theorem joinLabelAndName_spoken (label name : String) :
    joinLabelAndName (spoken label) (spoken name) =
      if label = "" then spoken name
      else if isRedundant name label then [.text label]
      else [.text label, .text name] := by
  by_cases unlabelled : label = ""
  · rw [if_pos unlabelled, unlabelled]
    rfl
  · have filled : spoken label = [.text label] := if_neg unlabelled
    rw [if_neg unlabelled, filled]
    by_cases nameless : name = ""
    · subst nameless
      have nothing : isRedundant "" label := isRedundant_iff.mpr fun word none =>
        absurd none not_isRun_nil
      rw [if_pos nothing]
      rfl
    · have named : spoken name = [.text name] := if_neg nameless
      rw [named]
      rfl

theorem saysWord_joinLabelAndName :
    SaysWord (joinLabelAndName (spoken label) (spoken name)) word ↔
      IsWord word label ∨ IsWord word name := by
  rw [joinLabelAndName_spoken]
  split
  · rename_i unlabelled
    subst unlabelled
    have wordless : ¬ IsWord word "" := not_isRun_nil
    rw [saysWord_spoken, or_iff_right wordless]
  · split
    · rename_i redundant
      rw [saysWord_cons, or_iff_left not_saysWord_nil, iff_self_or]
      exact isRedundant_iff.mp redundant word
    · rw [saysWord_cons, saysWord_cons, or_iff_left not_saysWord_nil]

end Words

end Fields

namespace Engine

open Fields

variable {engine : Engine ω} {depth : Nat} {context : Context} {key : FormatKey} {expression : Expr}
  {target other : Target}

section Standard

variable (standard : engine.IsStandard)
include standard

/-- A quantity that is asked of another object is what its field comes to under that object's own
category. -/
theorem IsStandard.comesTo_callOn {name : String} {field : Provider ω}
    (provided : (.normalize name, field) ∈ quantities) (query : Category → Query (List Fragment))
    (computes : ∀ kind, engine.objects.category world other = .ok kind → ∀ inner own,
      own.category = kind.getD .unknown → ComesTo world (query own.category)
        (field other (engine.invocation (engine.host depth) inner own expression))) :
    ComesTo world (engine.objects.category world other >>= fun kind => query (kind.getD .unknown))
      ((engine.invocation (engine.host (depth + 1)) context key expression).callOn name other) := by
  change ComesTo world _ (engine.compute (engine.host depth) key.mode expression name other
    context.withoutRole)
  unfold compute
  rw [standard.provider?_eq_some.mpr provided]
  have plain : engine.categoryOf other context.withoutRole =
    ask (engine.objects.category · other) := rfl
  rw [plain]
  refine (comesTo_ask (engine.objects.category · other)).bind fun kind answered => ?_
  exact (computes kind answered _ ⟨kind.getD .unknown, _, _⟩ rfl).guarded

/-- A panel that is asked for its name is no icon, so it asks no other object. -/
theorem IsStandard.comesTo_holder {panel : Target}
    (isPanel : engine.objects.category world panel = .ok (some .panel)) :
    ComesTo world (spoken <$> ownName engine.objects world .panel panel)
      ((engine.invocation (engine.host (depth + 1)) context key expression).callOn "name" panel) := by
  have called : ComesTo world (engine.objects.category world panel >>= fun kind =>
      spoken <$> nameUnder engine.objects world (kind.getD .unknown) panel)
      ((engine.invocation (engine.host (depth + 1)) context key expression).callOn "name" panel) := by
    refine standard.comesTo_callOn mem_quantities_name
      (fun category => spoken <$> nameUnder engine.objects world category panel) ?_
    intro kind answered inner own same
    rw [isPanel] at answered
    cases answered
    refine comesTo_name panel (engine.invocation (engine.host depth) inner own expression)
      fun icon => ?_
    have isPanel : own.category = .panel := same
    exact absurd (isPanel.symm.trans icon) (by decide)
  rw [isPanel] at called
  have plain := nameUnder_of_ne engine.objects world (by decide : Category.panel ≠ .icon) panel
  rw [← plain]
  exact called

/-- Any object that is asked for its name may ask a panel in turn. -/
theorem IsStandard.comesTo_callOn_name :
    ComesTo world (spoken <$> (engine.objects.category world other >>= fun kind =>
        nameUnder engine.objects world (kind.getD .unknown) other))
      ((engine.invocation (engine.host (depth + 2)) context key expression).callOn "name" other) := by
  rw [map_bind]
  refine standard.comesTo_callOn mem_quantities_name
    (fun category => spoken <$> nameUnder engine.objects world category other) ?_
  intro kind answered inner own same
  exact comesTo_name other (engine.invocation (engine.host (depth + 1)) inner own expression)
    fun icon panel isPanel => standard.comesTo_holder isPanel

/-- The label and name of an object is what the queries tell. -/
theorem IsStandard.comesTo_labelAndName :
    ComesTo world (labelAndNameOf engine.objects world key.category target)
      (labelAndName target (engine.invocation (engine.host (depth + 2)) context key expression)) :=
  Fields.comesTo_labelAndName target
    (engine.invocation (engine.host (depth + 2)) context key expression)
    (fun _ _ isPanel => standard.comesTo_holder isPanel) fun _ _ => standard.comesTo_callOn_name

/-- Whatever the category, the label and name of an object are there unless a query for one of them
breaks down. They say the words of the label and of the name and no others, the label first, and the name
is left out beside a label exactly if the label has all of its words. -/
theorem labelAndName_tells_words (state : State ω) (target : Target) (depth : Nat) (context : Context)
    (key : FormatKey) (expression : Expr) :
    let said := labelAndName target
      (engine.invocation (engine.host (depth + 2)) context key expression) state
    (∀ label name, labelOf engine.objects state.world target = .ok label →
      nameBeside engine.objects state.world label key.category target = .ok name →
      ∃ fragments next, said = .ok fragments next ∧
        (∀ word, SaysWord fragments word ↔ Text.IsWord word label ∨ Text.IsWord word name) ∧
        (label = "" → fragments = spoken name) ∧
        (label ≠ "" →
          fragments = [.text label] ∧ (∀ word, Text.IsWord word name → Text.IsWord word label) ∨
          fragments = [.text label, .text name] ∧
            ∃ word, Text.IsWord word name ∧ ¬ Text.IsWord word label)) ∧
    ∀ halt next, said = .error halt next → ∃ message,
      labelOf engine.objects state.world target = .error message ∨
        ∃ label, labelOf engine.objects state.world target = .ok label ∧
          nameBeside engine.objects state.world label key.category target = .error message := by
  intro said
  have comes : ComesTo state.world (labelAndNameOf engine.objects state.world key.category target)
      (labelAndName target (engine.invocation (engine.host (depth + 2)) context key expression)) :=
    standard.comesTo_labelAndName
  constructor
  · intro label name labelled named
    obtain ⟨next, ran, -⟩ := comes.answered rfl (labelAndNameOf_eq_ok labelled named)
    refine ⟨_, next, ran, fun word => saysWord_joinLabelAndName, fun unlabelled => ?_, fun filled => ?_⟩
    · rw [joinLabelAndName_spoken, if_pos unlabelled]
    · rw [joinLabelAndName_spoken, if_neg filled]
      by_cases redundant : isRedundant name label
      · rw [if_pos redundant]
        exact .inl ⟨rfl, isRedundant_iff.mp redundant⟩
      · rw [if_neg redundant]
        rw [isRedundant_iff, not_forall] at redundant
        obtain ⟨word, new⟩ := redundant
        exact .inr ⟨rfl, word, Classical.not_imp.mp new⟩
  · intro halt next broken
    obtain ⟨message, untold⟩ := comes.eq_error rfl broken
    exact ⟨message, cases_of_labelAndNameOf_error untold⟩

end Standard

section Example

/-- A table cell whose active descendant is an icon without a name, in a panel called `Tools`. -/
def cellAboveIcon : Engine Unit where
  objects :=
    { isValid := fun _ _ => .ok true
      category := fun _ target => .ok (some (if target = 2 then .icon else .panel))
      name := fun _ target => .ok (if target = 3 then some "Tools" else none)
      parent := fun _ target => .ok (if target = 2 then some 3 else none)
      activeDescendant := fun _ target => .ok (if target = 1 then some 2 else none) }
  table := .empty
  registry := (Fields.registry : Except RegistryError (Registry (Provider Unit))).toOption.getD .empty
  settings := .standard

theorem isStandard_cellAboveIcon : cellAboveIcon.IsStandard :=
  isStandard_of_registry (by rw [cellAboveIcon])

/-- The cell is called by the panel that holds its icon. -/
theorem labelAndName_tells_words_cellAboveIcon :
    cellAboveIcon.IsStandard ∧ labelOf cellAboveIcon.objects () 1 = .ok "" ∧
      nameBeside cellAboveIcon.objects () "" .tableCell 1 = .ok "Tools" ∧
      ∃ next, labelAndName 1 (cellAboveIcon.invocation (cellAboveIcon.host 2) .standard
        ⟨.tableCell, .standard, .unfocused⟩ .empty) (.start .standard 0 ()) =
          .ok [.text "Tools"] next := by
  have labelled : labelOf cellAboveIcon.objects () 1 = .ok "" := by rfl
  have named : nameBeside cellAboveIcon.objects () "" .tableCell 1 = .ok "Tools" := by rfl
  obtain ⟨tells, -⟩ := labelAndName_tells_words isStandard_cellAboveIcon (.start .standard 0 ()) 1 0
    .standard ⟨.tableCell, .standard, .unfocused⟩ .empty
  obtain ⟨fragments, next, ran, -, unlabelled, -⟩ := tells "" "Tools" labelled named
  rw [unlabelled rfl] at ran
  exact ⟨isStandard_cellAboveIcon, labelled, named, next, ran⟩

end Example

end Engine
end Narration
