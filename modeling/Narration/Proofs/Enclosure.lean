import Mathlib.Data.List.Nodup
import Mathlib.Data.List.Perm.Subperm
import Narration.Proofs.Gains
import Narration.Proofs.Naming
/-! The search for the panel around an object. It ends at the first repeated ancestor, finds the nearest
panel that has a label or a name, and asks no ancestor twice. -/
namespace Narration

variable {ω α β : Type}

section Lineage

variable (objects : ObjectModel ω) (world : ω)

/-- The parent of an object, where the query for it is answered and there is one. -/
def ObjectModel.parent? (target : Target) : Option Target :=
  (objects.parent world target).toOption.join

/-- The ancestors of an object, counted from its parent on. Where parents go around in a circle there is
no last one. -/
def ancestor? (target : Target) : Nat → Option Target
  | 0 => objects.parent? world target
  | n + 1 => (ancestor? target n).bind (objects.parent? world)

/-- The ancestors of an object up to the first repeated one. -/
structure IsLineage (target : Target) (chain : List Target) : Prop where
  follows : ∀ n < chain.length, chain[n]? = ancestor? objects world target n
  distinct : chain.Nodup
  ends : ∀ next, ancestor? objects world target chain.length = some next → next ∈ chain

variable {objects world} {target : Target} {chain : List Target}

theorem ObjectModel.parent?_of_ok {parent : Option Target}
    (answered : objects.parent world target = .ok parent) :
    objects.parent? world target = parent := by
  rw [parent?, answered]
  rfl

theorem length_le_of_nodup (distinct : chain.Nodup) : chain.length ≤ UInt32.size := by
  have numbers : (chain.map UInt32.toNat).Nodup :=
    distinct.map fun first second same => UInt32.toNat_inj.mp same
  have inside : chain.map UInt32.toNat ⊆ List.range UInt32.size := by
    intro number member
    obtain ⟨other, -, rfl⟩ := List.mem_map.mp member
    exact List.mem_range.mpr other.toNat_lt
  have bound := (numbers.subperm inside).length_le
  rwa [List.length_map, List.length_range] at bound

/-- Ancestors that are distinct so far go on to a lineage, since there are finitely many targets. -/
theorem exists_isLineage_of_prefix (budget : Nat) (done : List Target)
    (follows : ∀ n < done.length, done[n]? = ancestor? objects world target n) (distinct : done.Nodup)
    (room : UInt32.size ≤ done.length + budget) : ∃ chain, IsLineage objects world target chain := by
  induction budget generalizing done with
  | zero =>
      refine ⟨done, follows, distinct, fun next above => ?_⟩
      by_contra fresh
      have longer := length_le_of_nodup (List.nodup_cons.mpr ⟨fresh, distinct⟩)
      rw [List.length_cons] at longer
      omega
  | succ budget ih =>
      by_cases closed : ∀ next, ancestor? objects world target done.length = some next → next ∈ done
      · exact ⟨done, follows, distinct, closed⟩
      · simp only [not_forall] at closed
        obtain ⟨next, above, fresh⟩ := closed
        apply ih (done ++ [next])
        · intro n bound
          rw [List.length_append, List.length_singleton] at bound
          rcases Nat.lt_succ_iff_lt_or_eq.mp bound with before | rfl
          · rw [List.getElem?_append_left before]
            exact follows n before
          · rw [List.getElem?_concat_length, above]
        · exact List.nodup_append_comm.mpr (List.nodup_cons.mpr ⟨fresh, distinct⟩)
        · rw [List.length_append, List.length_singleton]
          omega

theorem exists_isLineage (objects : ObjectModel ω) (world : ω) (target : Target) :
    ∃ chain, IsLineage objects world target chain :=
  exists_isLineage_of_prefix UInt32.size [] (fun _ none => nomatch none) List.nodup_nil
    (Nat.zero_add _).ge

/-- A lineage cannot go on behind a repeated object. -/
theorem IsLineage.length_le {other : List Target} (lineage : IsLineage objects world target chain)
    (again : IsLineage objects world target other) : other.length ≤ chain.length := by
  by_contra longer
  have within : chain.length < other.length := Nat.lt_of_not_le longer
  obtain ⟨next, here⟩ : ∃ next, other[chain.length]? = some next := ⟨_, List.getElem?_eq_getElem within⟩
  have above : ancestor? objects world target chain.length = some next := by
    rw [← again.follows chain.length within, here]
  obtain ⟨n, bound, found⟩ := List.getElem_of_mem (lineage.ends next above)
  have before : other[n]? = some next := by
    rw [again.follows n (Nat.lt_trans bound within), ← lineage.follows n bound,
      List.getElem?_eq_getElem bound, found]
  have same := (List.nodup_iff_getElem?_ne_getElem?.mp again.distinct) n chain.length bound within
  exact same (before.trans here.symm)

theorem IsLineage.unique {other : List Target} (lineage : IsLineage objects world target chain)
    (again : IsLineage objects world target other) : other = chain := by
  have length : other.length = chain.length :=
    Nat.le_antisymm (lineage.length_le again) (again.length_le lineage)
  apply List.ext_getElem?
  intro n
  by_cases bound : n < chain.length
  · rw [lineage.follows n bound, again.follows n (length ▸ bound)]
  · rw [List.getElem?_eq_none (by omega), List.getElem?_eq_none (by omega)]

theorem IsLineage.next {done rest : List Target} {current : Target}
    (lineage : IsLineage objects world target (done ++ current :: rest)) :
    ancestor? objects world target done.length = some current ∧ current ∉ done := by
  constructor
  · have bound : done.length < (done ++ current :: rest).length := by simp
    rw [← lineage.follows done.length bound, List.getElem?_append_right (Nat.le_refl _), Nat.sub_self]
    rfl
  · intro member
    have apart := (List.nodup_append.mp lineage.distinct).2.2
    exact apart current member current (.head _) rfl

end Lineage

section Search

open Fields

/-- The queries that place and name objects are all answered. -/
structure ObjectModel.AnswersNaming (objects : ObjectModel ω) (world : ω) : Prop where
  parent : ∀ target, ∃ parent, objects.parent world target = .ok parent
  category : ∀ target, ∃ category, objects.category world target = .ok category
  name : ∀ target, ∃ name, objects.name world target = .ok name
  description : ∀ target, ∃ description, objects.description world target = .ok description
  label : ∀ target, ∃ label, objects.label world target = .ok label

/-- The label and name of a panel that has either. -/
def panelName? (objects : ObjectModel ω) (world : ω) (panel : Target) : Option (List Fragment) :=
  if objects.category world panel = .ok (some .panel) then
    (labelAndNameOf objects world .panel panel).toOption.filter (· ≠ [])
  else none

variable {objects : ObjectModel ω} {world : ω} {target panel : Target} {value : List Fragment}

theorem exists_told {query : Query (Option String)} (answered : ∃ answer, query = .ok answer) :
    ∃ text, told query = .ok text := by
  obtain ⟨answer, rfl⟩ := answered
  exact ⟨answer.getD "", rfl⟩

theorem exists_firstTold {first second : Query String} (answered : ∃ text, first = .ok text)
    (also : ∃ text, second = .ok text) : ∃ text, firstTold first second = .ok text := by
  obtain ⟨text, rfl⟩ := answered
  rw [firstTold]
  split
  · exact also
  · exact ⟨text, rfl⟩

theorem ObjectModel.AnswersNaming.labelAndNameOf_panel (answers : objects.AnswersNaming world)
    (panel : Target) : ∃ value, labelAndNameOf objects world .panel panel = .ok value := by
  obtain ⟨label, labelled⟩ := exists_told (answers.label panel)
  obtain ⟨name, named⟩ : ∃ name, nameBeside objects world label .panel panel = .ok name := by
    apply exists_firstTold
    · rw [nameUnder_of_ne objects world (by decide) panel]
      exact exists_firstTold (exists_told (answers.name panel)) (exists_told (answers.description panel))
    · exact ⟨"", if_neg fun both => absurd both.2 (by decide)⟩
  exact ⟨_, labelAndNameOf_eq_ok labelled named⟩

theorem panelName?_of_ne (other : objects.category world panel ≠ .ok (some .panel)) :
    panelName? objects world panel = none := if_neg other

theorem panelName?_of_panel (isPanel : objects.category world panel = .ok (some .panel))
    (named : labelAndNameOf objects world .panel panel = .ok value) :
    panelName? objects world panel = if value = [] then none else some value := by
  rw [panelName?, if_pos isPanel, named]
  change Option.filter (fun value => decide (value ≠ [])) (some value) = _
  rw [Option.filter_some]
  split <;> simp_all

/-- What is behind an object on the way up. -/
def climbFurther (invocation : Invocation ω) (steps : Nat) (visited : List Target) (current : Target) :
    Action (State ω) (List Fragment) := do
  climb invocation steps (current :: visited) (← ask (invocation.objects.parent · current))

theorem climb_of_visited {visited : List Target} {current : Target} (member : current ∈ visited)
    (invocation : Invocation ω) (steps : Nat) :
    climb invocation (steps + 1) visited (some current) = pure [] :=
  if_pos (List.contains_iff_mem.mpr member)

theorem climb_of_fresh {visited : List Target} {current : Target} (fresh : current ∉ visited)
    (invocation : Invocation ω) (steps : Nat) :
    climb invocation (steps + 1) visited (some current) = (do
      if (← ask (invocation.objects.category · current)) = some .panel then
        let label ← invocation.callOn "labelAndName" current
        if label = [] then climbFurther invocation steps visited current else return label
      else climbFurther invocation steps visited current) := by
  rw [climb, if_neg (mt List.contains_iff_mem.mp fresh)]
  apply bind_congr
  intro kind
  split
  · apply bind_congr
    intro label
    cases label <;> rfl
  · rfl

section Climb

variable (invocation : Invocation ω) (answers : invocation.objects.AnswersNaming world)
  (asks : ∀ panel, invocation.objects.category world panel = .ok (some .panel) →
    ComesTo world (labelAndNameOf invocation.objects world .panel panel)
      (invocation.callOn "labelAndName" panel))
include answers asks

/-- The step: an object is passed by unless it is a panel with a label or a name. -/
theorem comesTo_climb_step {steps : Nat} {visited : List Target} {current : Target}
    {value : List Fragment} (fresh : current ∉ visited)
    (further : ComesTo world (.ok value)
      (climb invocation steps (current :: visited) (invocation.objects.parent? world current))) :
    ComesTo world (.ok ((panelName? invocation.objects world current).getD value))
      (climb invocation (steps + 1) visited (some current)) := by
  have goesOn : ComesTo world (.ok value) (climbFurther invocation steps visited current) := by
    obtain ⟨parent, above⟩ := answers.parent current
    rw [ObjectModel.parent?_of_ok above] at further
    exact (comesTo_ask_of_ok (invocation.objects.parent · current) above).bind_of_ok further
  obtain ⟨kind, told⟩ := answers.category current
  rw [climb_of_fresh fresh]
  apply (comesTo_ask_of_ok (invocation.objects.category · current) told).bind_of_ok
  by_cases isPanel : kind = some .panel
  · subst isPanel
    obtain ⟨label, named⟩ := answers.labelAndNameOf_panel current
    have called : ComesTo world (.ok label) (invocation.callOn "labelAndName" current) :=
      named ▸ asks current told
    rw [if_pos rfl, panelName?_of_panel told named]
    apply called.bind_of_ok
    by_cases silent : label = []
    · rw [if_pos silent, if_pos silent]
      exact goesOn
    · rw [if_neg silent, if_neg silent]
      exact comesTo_pure label
  · rw [if_neg isPanel, panelName?_of_ne (by rw [told]; simpa using isPanel)]
    exact goesOn

/-- The run: on its way through the rest of a lineage the climb finds the first panel with a label or a
name. -/
theorem comesTo_climb (steps : Nat) (done rest : List Target)
    (lineage : IsLineage invocation.objects world target (done ++ rest)) (room : rest.length < steps) :
    ComesTo world (.ok ((rest.findSome? (panelName? invocation.objects world)).getD []))
      (climb invocation steps done.reverse (ancestor? invocation.objects world target done.length)) := by
  induction rest generalizing steps done with
  | nil =>
      rw [List.append_nil] at lineage
      cases above : ancestor? invocation.objects world target done.length with
      | none =>
          rw [climb_none]
          exact comesTo_pure []
      | some next =>
          obtain ⟨steps, rfl⟩ := Nat.exists_eq_succ_of_ne_zero (Nat.ne_of_gt room)
          rw [climb_of_visited (List.mem_reverse.mpr (lineage.ends next above))]
          exact comesTo_pure []
  | cons current rest ih =>
      obtain ⟨steps, rfl⟩ := Nat.exists_eq_succ_of_ne_zero (Nat.ne_of_gt (Nat.zero_lt_of_lt room))
      obtain ⟨above, fresh⟩ := lineage.next
      have shifted : IsLineage invocation.objects world target ((done ++ [current]) ++ rest) := by
        rwa [List.append_assoc, List.singleton_append]
      have further := ih steps (done ++ [current]) shifted (Nat.lt_of_succ_lt_succ room)
      have parent : ancestor? invocation.objects world target (done ++ [current]).length =
          invocation.objects.parent? world current := by
        rw [List.length_append, List.length_singleton, ancestor?, above]
        rfl
      rw [parent, List.reverse_append, List.reverse_singleton, List.singleton_append] at further
      have found : ((current :: rest).findSome? (panelName? invocation.objects world)).getD [] =
          (panelName? invocation.objects world current).getD
            ((rest.findSome? (panelName? invocation.objects world)).getD []) := by
        rw [List.findSome?_cons]
        cases panelName? invocation.objects world current <;> rfl
      rw [above, found]
      exact comesTo_climb_step invocation answers asks (mt List.mem_reverse.mp fresh) further

end Climb

end Search

section Noting

open Fields

/-- The quantities that were asked of objects, in the order in which they were asked. -/
abbrev Notes := List (String × Target)

namespace State

/-- The state in a world that also holds notes. -/
def noting (state : State ω) (notes : Notes) : State (ω × Notes) :=
  ⟨state.fallbacks, state.saved, state.tracker, state.clock, (state.world, notes)⟩

def bare (state : State (ω × Notes)) : State ω :=
  ⟨state.fallbacks, state.saved, state.tracker, state.clock, state.world.1⟩

end State

/-- The same end of a computation, in a world that also holds notes. -/
def noted (notes : Notes) : EStateM.Result Halt (State ω) α → EStateM.Result Halt (State (ω × Notes)) α
  | .ok value next => .ok value (next.noting notes)
  | .error halt next => .error halt (next.noting notes)

/-- The host, but every quantity that it is asked to compute is noted first. -/
def Host.noting (host : Host ω) : Host (ω × Notes) where
  resolve target context state := noted state.world.2 (host.resolve target context state.bare)
  compute mode expression name target context state :=
    noted (state.world.2 ++ [(name, target)])
      (host.compute mode expression name target context state.bare)

def Invocation.noting (invocation : Invocation ω) : Invocation (ω × Notes) :=
  ⟨invocation.objects.within Prod.fst, invocation.host.noting, invocation.context, invocation.key,
    invocation.expression, invocation.formatExpression⟩

/-- From `state` the second computation ends as the first one does, and notes `made` on its way. -/
def NotesDown (plain : Action (State ω) α) (noting : Action (State (ω × Notes)) α) (state : State ω)
    (made : Notes) : Prop :=
  ∀ notes, noting (state.noting notes) = noted (notes ++ made) (plain state)

variable {plain : Action (State ω) α} {noting : Action (State (ω × Notes)) α}
  {rest : α → Action (State ω) β} {restNoting : α → Action (State (ω × Notes)) β}
  {state next : State ω} {made more : Notes}

theorem notesDown_pure (value : α) (state : State ω) :
    NotesDown (pure value) (pure value) state [] := by
  intro notes
  rw [List.append_nil]
  rfl

theorem notesDown_ask (query : ω → Query α) (state : State ω) :
    NotesDown (ask query) (ask fun world => query world.1) state [] := by
  intro notes
  rw [List.append_nil]
  cases told : query state.world with
  | ok answer =>
      rw [ask_of_ok told]
      exact ask_of_ok told
  | error message =>
      rw [ask_of_error told]
      exact ask_of_error told

theorem notesDown_callOn (invocation : Invocation ω) (name : String) (other : Target)
    (state : State ω) :
    NotesDown (invocation.callOn name other) (invocation.noting.callOn name other) state
      [(name, other)] :=
  fun _ => rfl

theorem NotesDown.bind_of_ok {value : α} (first : NotesDown plain noting state made)
    (ran : plain state = .ok value next) (later : NotesDown (rest value) (restNoting value) next more) :
    NotesDown (plain >>= rest) (noting >>= restNoting) state (made ++ more) := by
  intro notes
  have start := first notes
  rw [ran] at start
  rw [Narration.bind_of_ok ran, Narration.bind_of_ok start, later, List.append_assoc]

theorem NotesDown.bind_of_error {halt : Halt} (first : NotesDown plain noting state made)
    (broke : plain state = .error halt next) :
    NotesDown (plain >>= rest) (noting >>= restNoting) state made := by
  intro notes
  have start := first notes
  rw [broke] at start
  rw [Narration.bind_of_error broke, Narration.bind_of_error start]
  rfl

/-- The computation asks for the label and name of distinct objects, of none that is in `visited`. -/
def AsksApart (visited : List Target) (plain : Action (State ω) α)
    (noting : Action (State (ω × Notes)) α) (state : State ω) : Prop :=
  ∃ asked : List Target, asked.Nodup ∧ (∀ other ∈ asked, other ∉ visited) ∧
    NotesDown plain noting state (asked.map ("labelAndName", ·))

variable {visited : List Target} {current : Target} {invocation : Invocation ω}

theorem asksApart_pure (value : α) : AsksApart visited (pure value) (pure value) state :=
  ⟨[], List.nodup_nil, fun _ none => (nomatch none), notesDown_pure value state⟩

theorem AsksApart.after_ask (query : ω → Query α)
    (apart : ∀ answer, AsksApart visited (rest answer) (restNoting answer) state) :
    AsksApart visited (ask query >>= rest) ((ask fun world => query world.1) >>= restNoting) state := by
  cases told : query state.world with
  | error message =>
      refine ⟨[], List.nodup_nil, fun _ none => (nomatch none), ?_⟩
      exact (notesDown_ask query state).bind_of_error (ask_of_error told)
  | ok answer =>
      obtain ⟨asked, distinct, fresh, notes⟩ := apart answer
      exact ⟨asked, distinct, fresh, (notesDown_ask query state).bind_of_ok (ask_of_ok told) notes⟩

theorem AsksApart.after_callOn {rest : List Fragment → Action (State ω) β}
    {restNoting : List Fragment → Action (State (ω × Notes)) β} (fresh : current ∉ visited)
    (apart : ∀ label next, AsksApart (current :: visited) (rest label) (restNoting label) next) :
    AsksApart visited (invocation.callOn "labelAndName" current >>= rest)
      (invocation.noting.callOn "labelAndName" current >>= restNoting) state := by
  have call := notesDown_callOn invocation "labelAndName" current state
  cases ran : invocation.callOn "labelAndName" current state with
  | error halt next =>
      refine ⟨[current], List.nodup_singleton current, fun other member => ?_, call.bind_of_error ran⟩
      rw [List.mem_singleton.mp member]
      exact fresh
  | ok label next =>
      obtain ⟨asked, distinct, others, notes⟩ := apart label next
      refine ⟨current :: asked, List.nodup_cons.mpr ⟨fun again => ?_, distinct⟩, fun other member => ?_,
        call.bind_of_ok ran notes⟩
      · exact others current again (.head _)
      · rcases List.mem_cons.mp member with rfl | member
        · exact fresh
        · exact fun known => others other member (.tail _ known)

theorem AsksApart.mono {more : List Target} (apart : AsksApart more plain noting state)
    (within : visited ⊆ more) : AsksApart visited plain noting state := by
  obtain ⟨asked, distinct, fresh, notes⟩ := apart
  exact ⟨asked, distinct, fun other member known => fresh other member (within known), notes⟩

/-- No climb asks an object a second time, whatever the objects and the host are. -/
theorem asksApart_climb (invocation : Invocation ω) (steps : Nat) (visited : List Target)
    (current : Option Target) (state : State ω) :
    AsksApart visited (climb invocation steps visited current)
      (climb invocation.noting steps visited current) state := by
  induction steps generalizing visited current state with
  | zero => exact asksApart_pure []
  | succ steps ih =>
      cases current with
      | none =>
          rw [climb_none, climb_none]
          exact asksApart_pure []
      | some current =>
          by_cases member : current ∈ visited
          · rw [climb_of_visited member, climb_of_visited member]
            exact asksApart_pure []
          · have further (between : State ω) : AsksApart (current :: visited)
                (climbFurther invocation steps visited current)
                (climbFurther invocation.noting steps visited current) between :=
              .after_ask (invocation.objects.parent · current) fun parent =>
                ih (current :: visited) parent between
            rw [climb_of_fresh member, climb_of_fresh member]
            apply AsksApart.after_ask (invocation.objects.category · current)
            intro kind
            by_cases isPanel : kind = some .panel
            · rw [if_pos isPanel, if_pos isPanel]
              apply AsksApart.after_callOn member
              intro label between
              by_cases silent : label = []
              · rw [if_pos silent, if_pos silent]
                exact further between
              · rw [if_neg silent, if_neg silent]
                exact asksApart_pure label
            · rw [if_neg isPanel, if_neg isPanel]
              exact (further state).mono (List.subset_cons_self current visited)

theorem asksApart_namedContainingPanel (target : Target) (invocation : Invocation ω)
    (state : State ω) :
    AsksApart [] (namedContainingPanel target invocation)
      (namedContainingPanel target invocation.noting) state :=
  .after_ask (invocation.objects.parent · target) fun parent =>
    asksApart_climb invocation (UInt32.size + 1) [] parent state

end Noting

namespace Engine

open Fields

variable {engine : Engine ω} {world : ω} {depth : Nat} {context : Context} {key : FormatKey}
  {expression : Expr} {target panel : Target}

/-- A panel that is asked for its label and name asks no other object for it. -/
theorem IsStandard.comesTo_panel (standard : engine.IsStandard)
    (isPanel : engine.objects.category world panel = .ok (some .panel)) :
    ComesTo world (labelAndNameOf engine.objects world .panel panel)
      ((engine.invocation (engine.host (depth + 1)) context key expression).callOn "labelAndName"
        panel) := by
  have called : ComesTo world (engine.objects.category world panel >>= fun kind =>
      labelAndNameOf engine.objects world (kind.getD .unknown) panel)
      ((engine.invocation (engine.host (depth + 1)) context key expression).callOn "labelAndName"
        panel) := by
    refine standard.comesTo_callOn mem_quantities_labelAndName
      (fun category => labelAndNameOf engine.objects world category panel) ?_
    intro kind answered inner own same
    rw [isPanel] at answered
    cases answered
    have isPanel : own.category = .panel := same
    apply Fields.comesTo_labelAndName panel (engine.invocation (engine.host depth) inner own expression)
    · intro icon
      exact absurd (isPanel.symm.trans icon) (by decide)
    · intro cell
      exact absurd (isPanel.symm.trans cell) (by decide)
  rw [isPanel] at called
  exact called

/-- Where the queries are answered, the search ends, even if parents go around in a circle. It comes to
the label and name of the nearest panel that has either, among the ancestors up to the first repeated
one, or to nothing if there is no such panel. It asks no object for its label and name twice. -/
theorem namedContainingPanel_nearest (standard : engine.IsStandard) {state : State ω}
    (answers : engine.objects.AnswersNaming state.world) (target : Target) (depth : Nat)
    (context : Context) (key : FormatKey) (expression : Expr) :
    let invocation := engine.invocation (engine.host (depth + 1)) context key expression
    let named := panelName? engine.objects state.world
    (∃ chain, (∀ other, IsLineage engine.objects state.world target other ↔ other = chain) ∧
      ∃ (next : State ω) (asked : List Target),
        namedContainingPanel target invocation state = .ok ((chain.findSome? named).getD []) next ∧
        asked.Nodup ∧ namedContainingPanel target invocation.noting (state.noting []) =
          .ok ((chain.findSome? named).getD []) (next.noting (asked.map ("labelAndName", ·)))) ∧
    ∀ other,
      (engine.objects.category state.world other ≠ .ok (some .panel) → named other = none) ∧
      (engine.objects.category state.world other = .ok (some .panel) →
        ∀ between : State ω, between.world = state.world → ∃ value after,
          invocation.callOn "labelAndName" other between = .ok value after ∧
          named other = if value = [] then none else some value) := by
  intro invocation named
  have asks : ∀ panel, engine.objects.category state.world panel = .ok (some .panel) →
      ComesTo state.world (labelAndNameOf engine.objects state.world .panel panel)
        (invocation.callOn "labelAndName" panel) := fun panel isPanel => standard.comesTo_panel isPanel
  refine ⟨?_, fun other => ⟨panelName?_of_ne, fun isPanel between same => ?_⟩⟩
  · obtain ⟨chain, lineage⟩ := exists_isLineage engine.objects state.world target
    refine ⟨chain, fun other => ⟨lineage.unique, fun same => same ▸ lineage⟩, ?_⟩
    obtain ⟨parent, above⟩ := answers.parent target
    have first : ancestor? engine.objects state.world target 0 = parent :=
      ObjectModel.parent?_of_ok above
    have room : chain.length < UInt32.size + 1 :=
      Nat.lt_succ_of_le (length_le_of_nodup lineage.distinct)
    have climbed : ComesTo state.world (.ok ((chain.findSome? named).getD []))
        (climb invocation (UInt32.size + 1) [] parent) :=
      first ▸ comesTo_climb invocation answers asks (UInt32.size + 1) [] chain lineage room
    have searched : ComesTo state.world (.ok ((chain.findSome? named).getD []))
        (namedContainingPanel target invocation) :=
      (comesTo_ask_of_ok (engine.objects.parent · target) above).bind_of_ok climbed
    obtain ⟨next, ran, -⟩ := searched.answered rfl rfl
    obtain ⟨asked, distinct, -, notes⟩ := asksApart_namedContainingPanel target invocation state
    refine ⟨next, asked, ran, distinct, ?_⟩
    rw [notes [], ran]
    rfl
  · obtain ⟨value, told⟩ := answers.labelAndNameOf_panel other
    obtain ⟨after, ran, -⟩ := (asks other isPanel).answered same told
    exact ⟨value, after, ran, panelName?_of_panel isPanel told⟩

section Example

/-- An object in two panels that hold each other. The outer one is called `Tools`. -/
def circleOfPanels : Engine Unit where
  objects :=
    { isValid := fun _ _ => .ok true
      category := fun _ _ => .ok (some .panel)
      name := fun _ target => .ok (if target = 3 then some "Tools" else none)
      parent := fun _ target => .ok (some (if target = 2 then 3 else 2)) }
  table := .empty
  registry := (Fields.registry : Except RegistryError (Registry (Provider Unit))).toOption.getD .empty
  settings := .standard

theorem isStandard_circleOfPanels : circleOfPanels.IsStandard :=
  isStandard_of_registry (by rw [circleOfPanels])

theorem isLineage_circleOfPanels : IsLineage circleOfPanels.objects () 1 [2, 3] where
  follows := by decide
  distinct := by decide
  ends := by
    intro next above
    have again : ancestor? circleOfPanels.objects () 1 2 = some 2 := by decide
    rw [List.length_cons, List.length_singleton, again] at above
    cases above
    exact .head _

theorem namedContainingPanel_nearest_circleOfPanels :
    circleOfPanels.IsStandard ∧ circleOfPanels.objects.AnswersNaming () ∧
      ∃ next, namedContainingPanel 1 (circleOfPanels.invocation (circleOfPanels.host 1) .standard
        ⟨.unknown, .standard, .unfocused⟩ .empty) (.start .standard 0 ()) =
          .ok [.text "Tools"] next := by
  have answers : circleOfPanels.objects.AnswersNaming () :=
    ⟨fun _ => ⟨_, rfl⟩, fun _ => ⟨_, rfl⟩, fun _ => ⟨_, rfl⟩, fun _ => ⟨_, rfl⟩, fun _ => ⟨_, rfl⟩⟩
  obtain ⟨⟨chain, unique, next, asked, ran, -⟩, -⟩ :=
    namedContainingPanel_nearest isStandard_circleOfPanels answers 1 0 .standard
      ⟨.unknown, .standard, .unfocused⟩ .empty
  rw [← (unique _).mp isLineage_circleOfPanels] at ran
  exact ⟨isStandard_circleOfPanels, answers, next, ran⟩

end Example

end Engine

end Narration
