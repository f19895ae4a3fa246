import Narration.Proofs.Repetition
import Narration.Proofs.Tracking
/-! What passes do to the throttle. The main result: after a pass whose update was refused, the last
presented update of its target is this one if the pass said something all the same, and the one before
all silent resolutions if it did not. -/
namespace Narration

/-- What a pass has to say for its update to count as presented. -/
def Resolution.Speaks (resolution : Resolution) : Prop := resolution.fragments.head?.any (!·.isBlank)

namespace Engine

variable {ω : Type} (engine : Engine ω)

/-- The calls that a pass makes. -/
def passCalls (below : Host ω) (target : Target) (context : Context) (state : State ω) :
    List (Call (State ω)) :=
  match engine.opening? target context state with
  | none => []
  | some (key, body) =>
    engine.calls below target (innerContext context key) key (engine.evaluated context key body)
      (started context state)

/-- The context in which a pass presents another object. -/
def nestedContext (context : Context) : Context :=
  { context with
    role := none, mode := some (context.mode.getD engine.settings.mode)
    formatType := some context.effectiveFormatType, recursing := true }

/-- A pass notes an update of `bar`: it is an update of `bar` itself that says something, or this
happens while it presents the active descendant of its target. -/
inductive Notes (bar : Target) : Nat → Target → Context → State ω → Prop
  | presented {depth : Nat} {context : Context} {state next : State ω} {resolution : Resolution}
      (update : context.isProgressUpdate)
      (ran : (engine.host depth).resolve bar context state = .ok resolution next)
      (spoken : resolution.Speaks) : Notes bar depth bar context state
  | descendant {depth : Nat} {target other : Target} {context : Context} {state : State ω}
      {call : Call (State ω)}
      (made : call ∈ engine.passCalls (engine.host depth) target context state)
      (called : call.name = ⟨"activeDescendant"⟩)
      (active : engine.objects.activeDescendant call.found.world target = .ok (some other))
      (apart : other ≠ target)
      (noted : Notes bar depth other (engine.nestedContext context) call.found) :
      Notes bar (depth + 1) target context state

/-- A call presents the active descendant of `target`, which notes an update of `bar`. -/
def NotesBelow (bar : Target) (depth : Nat) (target : Target) (inner : Context)
    (call : Call (State ω)) : Prop :=
  call.name = ⟨"activeDescendant"⟩ ∧ ∃ other,
    engine.objects.activeDescendant call.found.world target = .ok (some other) ∧ other ≠ target ∧
      engine.Notes bar depth other inner call.found

/-- A call asks the tracker about the update of `target` to `percent`, and is refused. -/
structure Refuses (target : Target) (percent : UInt32) (call : Call (State ω)) : Prop where
  called : call.name = ⟨"progressBarValue"⟩
  told : engine.objects.percent call.found.world target = .ok (some percent)
  refused : ∃ after, engine.objects.shouldPresent target percent call.found = .ok false after

/-- The last presented update of `bar`; none if `bar` is not valid. -/
def standing (bar : Target) (state : State ω) : ProgressEntry :=
  state.tracker.standing (engine.objects.isValid state.world) bar

/-- What a computation does to the throttle of `bar`, whose update it notes or not. -/
structure Updates (bar : Target) (noted : Prop) (state next : State ω) : Prop where
  clock : next.clock = state.clock
  world : next.world = state.world
  new : noted → ∃ percent, engine.objects.percent state.world bar = .ok percent ∧
    engine.standing bar next = ⟨some state.clock, percent⟩
  old : ¬ noted → engine.standing bar next = engine.standing bar state

variable {engine} {bar target : Target} {state : State ω} {context : Context} {key : FormatKey}
  {body : Expr} {depth : Nat}

section Updates

variable {noted later : Prop} {between next : State ω}

theorem Updates.congr (updates : engine.Updates bar noted state next) (same : noted ↔ later) :
    engine.Updates bar later state next :=
  ⟨updates.clock, updates.world, updates.new ∘ same.mpr, updates.old ∘ mt same.mp⟩

/-- Updates that are noted one after another are the same update: the clock and the world stand
still. -/
theorem Updates.trans (first : engine.Updates bar noted state between)
    (second : engine.Updates bar later between next) :
    engine.Updates bar (noted ∨ later) state next where
  clock := second.clock.trans first.clock
  world := second.world.trans first.world
  new := by
    intro either
    by_cases last : later
    · obtain ⟨percent, told, written⟩ := second.new last
      rw [first.world] at told
      rw [first.clock] at written
      exact ⟨percent, told, written⟩
    · obtain ⟨percent, told, written⟩ := first.new (either.resolve_right last)
      exact ⟨percent, told, (second.old last).trans written⟩
  old := by
    intro neither
    have ⟨before, after⟩ := not_or.mp neither
    exact (second.old after).trans (first.old before)

theorem Updates.unnoted (clock : next.clock = state.clock) (world : next.world = state.world)
    (same : engine.standing bar next = engine.standing bar state) (unnoted : ¬ noted) :
    engine.Updates bar noted state next :=
  ⟨clock, world, fun impossible => absurd impossible unnoted, fun _ => same⟩

theorem Updates.refl (unnoted : ¬ noted) : engine.Updates bar noted state state :=
  .unnoted rfl rfl rfl unnoted

theorem ignoresAsking_standing (engine : Engine ω) (bar : Target) :
    IgnoresAsking engine.objects (engine.standing bar) where
  shouldPresent target value state := by
    rw [ObjectModel.shouldPresent, finalState_track]
    exact Tracker.keeps_shouldPresent _ _ _ _ _ state.tracker
  numberAndCount target state := by
    rw [ObjectModel.numberAndCount, finalState_track]
    exact Tracker.keeps_numberAndCount _ _ _ state.tracker

theorem updates_recordProgress (alive : engine.objects.isValid state.world target = .ok true) :
    engine.Updates bar
      (target = bar ∧ ∃ next, engine.objects.recordProgress target none none state = .ok () next)
      state (finalState (engine.objects.recordProgress target none none state)) := by
  rw [ObjectModel.recordProgress, finalState_track, track]
  cases ran : Tracker.record (engine.objects.isValid state.world) (engine.objects.percent state.world)
      state.clock target none none state.tracker with
  | error halt tracker =>
      refine .unnoted rfl rfl (Tracker.standing_of_record_error ran) ?_
      rintro ⟨-, next, done⟩
      cases done
  | ok done tracker =>
      by_cases same : target = bar
      · subst same
        obtain ⟨percent, told, written⟩ := Tracker.recorded_record ran
        refine ⟨rfl, rfl, fun _ => ⟨percent, told, ?_⟩, fun unnoted => ?_⟩
        · exact (Tracker.standing_of_valid alive tracker).trans written
        · exact absurd ⟨rfl, _, rfl⟩ unnoted
      · have kept := (Tracker.keeps_record same none none).of_eq ran
        exact .unnoted rfl rfl kept fun noted => same noted.1

/-- The end of a pass notes its update exactly where it has something to say and does not break
down. -/
theorem updates_conclude {settled : Settled}
    (alive : engine.objects.isValid state.world target = .ok true) :
    engine.Updates bar (target = bar ∧ context.isProgressUpdate ∧ ∃ resolution next,
      engine.conclude target context key settled state = .ok resolution next ∧ resolution.Speaks)
      state (finalState (engine.conclude target context key settled state)) := by
  have silent (resolution : Resolution) (quiet : ¬ (context.isProgressUpdate ∧ resolution.Speaks)) :
      engine.Updates bar (target = bar ∧ context.isProgressUpdate ∧ ∃ said next,
        (pure resolution : Action (State ω) Resolution) state = .ok said next ∧ said.Speaks)
        state (finalState ((pure resolution : Action (State ω) Resolution) state)) := by
    refine .unnoted rfl rfl rfl ?_
    rintro ⟨-, update, said, next, ran, spoken⟩
    obtain ⟨rfl, -⟩ := pure_eq_ok.mp ran
    exact quiet ⟨update, spoken⟩
  cases ending : settled.ending with
  | unknown name =>
      simp only [conclude, ending]
      exact silent _ fun noted => Bool.false_ne_true noted.2
  | failed name =>
      simp only [conclude, ending]
      exact silent _ fun noted => Bool.false_ne_true noted.2
  | complete fragments =>
      simp only [conclude, ending]
      split
      · rename_i shown
        obtain ⟨update, spoken⟩ := Bool.and_eq_true_iff.mp shown
        rw [finalState_bind_pure _ fun _ => _]
        refine (updates_recordProgress alive).congr (and_congr_right fun _ => ?_)
        constructor
        · rintro ⟨next, recorded⟩
          exact ⟨update, _, next, bind_eq_ok.mpr ⟨(), next, recorded, rfl⟩, spoken⟩
        · rintro ⟨-, resolution, next, ran, -⟩
          obtain ⟨done, between, recorded, -⟩ := bind_eq_ok.mp ran
          exact ⟨between, recorded⟩
      · rename_i silence
        exact silent _ fun noted => silence (Bool.and_eq_true_iff.mpr noted)

end Updates

section Descendant

variable {invocation : Invocation ω}

theorem finalState_activeDescendant {other : Target}
    (active : invocation.objects.activeDescendant state.world target = .ok (some other))
    (apart : other ≠ target) :
    finalState (Fields.activeDescendant target invocation state) =
      finalState (invocation.host.resolve other invocation.context.withoutRole state) := by
  have asked : ask (invocation.objects.activeDescendant · target) state = .ok (some other) state :=
    ask_of_ok active
  rw [Fields.activeDescendant, bind_of_ok asked]
  simp only [apart, if_false]
  exact finalState_bind_pure _ _ _

theorem finalState_activeDescendant_of_none
    (absent : ∀ other, invocation.objects.activeDescendant state.world target = .ok (some other) →
      other = target) :
    finalState (Fields.activeDescendant target invocation state) = state := by
  cases active : invocation.objects.activeDescendant state.world target with
  | error message =>
      have broken : ask (invocation.objects.activeDescendant · target) state =
          .error (.fault message) state := ask_of_error active
      rw [Fields.activeDescendant, bind_of_error broken]
      rfl
  | ok descendant =>
      have asked : ask (invocation.objects.activeDescendant · target) state = .ok descendant state :=
        ask_of_ok active
      rw [Fields.activeDescendant, bind_of_ok asked]
      cases descendant with
      | none => rfl
      | some other =>
          simp only [absent other active, if_true]
          rfl

end Descendant

section Passes

theorem withoutRole_innerContext (opens : engine.opening? target context state = some (key, body)) :
    (innerContext context key).withoutRole = engine.nestedContext context := by
  obtain ⟨-, category, -, rfl, -⟩ := opening_eq_some.mp opens
  rfl

theorem passCalls_of_opening (below : Host ω)
    (opens : engine.opening? target context state = some (key, body)) :
    engine.passCalls below target context state =
      engine.calls below target (innerContext context key) key (engine.evaluated context key body)
        (started context state) := by
  simp only [passCalls, opens]

/-- A pass that opens notes what its calls note, and its own update if it says something. -/
theorem notes_succ_iff (opens : engine.opening? target context state = some (key, body)) :
    engine.Notes bar (depth + 1) target context state ↔
      (∃ call ∈ engine.passCalls (engine.host depth) target context state,
        engine.NotesBelow bar depth target (engine.nestedContext context) call) ∨
      (target = bar ∧ context.isProgressUpdate ∧ ∃ resolution next,
        engine.present (engine.host depth) target (innerContext context key) key
          (engine.evaluated context key body) (started context state) = .ok resolution next ∧
        resolution.Speaks) := by
  have run : (engine.host (depth + 1)).resolve target context state = _ := pass_of_opening opens
  constructor
  · intro notes
    cases notes with
    | presented update ran spoken =>
        rw [run] at ran
        rcases contained_eq_ok.mp ran with ran | ⟨message, -, rfl⟩
        · exact .inr ⟨rfl, update, _, _, ran, spoken⟩
        · cases spoken
    | descendant made called active apart noted =>
        exact .inl ⟨_, made, called, _, active, apart, noted⟩
  · rintro (⟨call, made, called, other, active, apart, noted⟩ |
      ⟨rfl, update, resolution, next, ran, spoken⟩)
    · exact .descendant made called active apart noted
    · exact .presented update (run.trans (contained_eq_ok.mpr (.inl ran))) spoken

theorem updates_started : engine.Updates bar False state (started context state) := by
  unfold started
  split
  · exact .refl id
  · exact .unnoted rfl rfl rfl id

variable (standard : engine.IsStandard)
include standard

section Step

variable (nested : ∀ target context state,
  engine.Updates bar (engine.Notes bar depth target context state) state
    (finalState ((engine.host depth).resolve target context state)))
include nested

/-- Among the calls of a pass, only the presentation of the active descendant can note an update. -/
theorem IsStandard.updates_call {inner : Context} {expression : Expr} {name : QuantityName}
    {compute : Action (State ω) (List Fragment)}
    (found : engine.fields (engine.host depth) target inner key expression name = some compute)
    (state : State ω) :
    engine.Updates bar
      (engine.NotesBelow bar depth target inner.withoutRole ⟨name, state, compute state⟩)
      state (finalState (compute state)) := by
  have reads : Keeps (fun state : State ω => (state.clock, state.world)) compute :=
    standard.keeps_fields (fun _ _ => rfl) (fun _ _ => rfl) found
  obtain ⟨field, provided, rfl⟩ := fields_eq_some found
  by_cases presents : name = ⟨"activeDescendant"⟩
  · subst presents
    cases standard.eq_activeDescendant provided
    rw [finalState_guarded]
    by_cases descends : ∃ other,
        engine.objects.activeDescendant state.world target = .ok (some other) ∧ other ≠ target
    · obtain ⟨other, active, apart⟩ := descends
      rw [finalState_activeDescendant active apart]
      refine (nested other inner.withoutRole state).congr ⟨fun notes => ?_, ?_⟩
      · exact ⟨rfl, other, active, apart, notes⟩
      · rintro ⟨-, same, found, -, notes⟩
        cases active.symm.trans found
        exact notes
    · rw [finalState_activeDescendant_of_none fun other active => ?_]
      · exact .refl fun ⟨_, other, active, apart, _⟩ => descends ⟨other, active, apart⟩
      · exact Decidable.not_not.mp fun apart => descends ⟨other, active, apart⟩
  · have kept := (standard.keeps_apart (fun _ _ => rfl) (ignoresAsking_standing engine bar) provided
      presents depth target inner key expression).guarded
    exact .unnoted (congrArg Prod.fst (reads state)) (congrArg Prod.snd (reads state)) (kept state)
      fun noted => presents noted.1

theorem IsStandard.updates_settle
    (opens : engine.opening? target context state = some (key, body)) :
    engine.Updates bar
      (∃ call ∈ engine.passCalls (engine.host depth) target context state,
        engine.NotesBelow bar depth target (engine.nestedContext context) call)
      (started context state)
      (finalState ((engine.evaluated context key body).settle
        (engine.fields (engine.host depth) target (innerContext context key) key
          (engine.evaluated context key body)) (.ofCategory key.category) (started context state))) := by
  rw [passCalls_of_opening _ opens]
  refine Expr.calls_preserve (fun calls between => engine.Updates bar
    (∃ call ∈ calls, engine.NotesBelow bar depth target (engine.nestedContext context) call)
    (started context state) between) ?_ _ _ (.refl ?_)
  · intro name compute found earlier between updates
    have call := standard.updates_call nested found between
    rw [withoutRole_innerContext opens] at call
    refine (updates.trans call).congr ?_
    simp only [List.mem_append, List.mem_singleton, or_and_right, exists_or, exists_eq_left]
  · rintro ⟨call, member, -⟩
    cases member

theorem IsStandard.updates_pass (target : Target) (context : Context) (state : State ω) :
    engine.Updates bar (engine.Notes bar (depth + 1) target context state) state
      (finalState (engine.pass (engine.host depth) target context state)) := by
  cases opens : engine.opening? target context state with
  | none =>
      obtain ⟨outcome, key, -, skipped⟩ := pass_of_closed (engine.host depth) opens
      have ran := skipped state rfl
      rw [ran]
      refine .refl fun notes => ?_
      cases notes with
      | presented update again spoken =>
          cases ran.symm.trans again
          cases spoken
      | descendant made called active apart noted =>
          simp only [passCalls, opens, List.not_mem_nil] at made
  | some opening =>
      obtain ⟨key, body⟩ := opening
      have settling := updates_started.trans (standard.updates_settle nested opens)
      rw [pass_of_opening opens, finalState_contained]
      refine Updates.congr ?_ (notes_succ_iff opens).symm
      rw [present_eq]
      cases settled : (engine.evaluated context key body).settle
          (engine.fields (engine.host depth) target (innerContext context key) key
            (engine.evaluated context key body)) (.ofCategory key.category) (started context state) with
      | error halt between =>
          rw [settled] at settling
          simp only [bind_of_error settled]
          exact settling.congr (by simp)
      | ok settled between =>
          rw [settled] at settling
          simp only [bind_of_ok settled]
          have alive : engine.objects.isValid between.world target = .ok true := by
            rw [show between.world = state.world from settling.world]
            exact (opening_eq_some.mp opens).1
          refine (settling.trans (updates_conclude alive)).congr ?_
          rw [false_or]
          exact Iff.rfl

end Step

/-- What a pass does to the throttle of any object, together with all passes that are nested in it. -/
theorem IsStandard.updates_resolve (bar : Target) (depth : Nat) (target : Target) (context : Context)
    (state : State ω) :
    engine.Updates bar (engine.Notes bar depth target context state) state
      (finalState ((engine.host depth).resolve target context state)) := by
  induction depth generalizing target context state with
  | zero =>
      refine .refl fun notes => ?_
      cases notes with
      | presented update ran spoken => cases ran
  | succ depth ih => exact standard.updates_pass ih target context state

theorem IsStandard.world_of_made {call : Call (State ω)}
    (made : call ∈ engine.passCalls (engine.host depth) target context state) :
    call.found.world = state.world := by
  cases opens : engine.opening? target context state with
  | none => simp only [passCalls, opens, List.not_mem_nil] at made
  | some opening =>
      obtain ⟨key, body⟩ := opening
      rw [passCalls_of_opening _ opens] at made
      have worlds : ∀ call ∈ engine.calls (engine.host depth) target (innerContext context key) key
          (engine.evaluated context key body) (started context state),
          call.found.world = (started context state).world :=
        (engine.follow_calls _ _ _ _ _ _).keeps fun _ _ found =>
          standard.keeps_fields (fun _ _ => rfl) (fun _ _ => rfl) found
      exact (worlds call made).trans (updates_started : engine.Updates target False _ _).world

end Passes

section Stream

variable {first next : State ω}

/-- From the first state to another one, the clock and the world go on and objects are presented, but
no update of `bar` is noted, and `bar` stays valid. -/
inductive Quiet (engine : Engine ω) (bar : Target) (first : State ω) : State ω → Prop
  | start (alive : engine.objects.isValid first.world bar = .ok true) : Quiet engine bar first first
  | meanwhile {state : State ω} (before : Quiet engine bar first state) (clock : UInt64) (world : ω)
      (alive : engine.objects.isValid world bar = .ok true) :
      Quiet engine bar first { state with clock, world }
  | presented {state next : State ω} {target : Target} {context : Context} {resolution : Resolution}
      (before : Quiet engine bar first state)
      (ran : engine.resolve target context state = .ok resolution next)
      (unnoted : ¬ engine.Notes bar depthLimit target context { state with fallbacks := state.saved }) :
      Quiet engine bar first next

theorem standing_of_valid (alive : engine.objects.isValid state.world bar = .ok true) :
    engine.standing bar state = state.tracker.recorded bar :=
  Tracker.standing_of_valid alive _

/-- A pass that notes no update of a valid object leaves its last presented update. -/
theorem IsStandard.recorded_of_unnoted (standard : engine.IsStandard) {resolution : Resolution}
    (ran : (engine.host depth).resolve target context state = .ok resolution next)
    (unnoted : ¬ engine.Notes bar depth target context state)
    (alive : engine.objects.isValid state.world bar = .ok true) :
    engine.objects.isValid next.world bar = .ok true ∧
      next.tracker.recorded bar = state.tracker.recorded bar := by
  have updates := standard.updates_resolve bar depth target context state
  rw [ran] at updates
  have after : engine.objects.isValid next.world bar = .ok true := by
    rw [show next.world = state.world from updates.world]
    exact alive
  have same := updates.old unnoted
  rw [standing_of_valid alive] at same
  exact ⟨after, (standing_of_valid after).symm.trans same⟩

theorem Quiet.recorded_eq (standard : engine.IsStandard) (quiet : engine.Quiet bar first state) :
    engine.objects.isValid state.world bar = .ok true ∧
      state.tracker.recorded bar = first.tracker.recorded bar := by
  induction quiet with
  | start alive => exact ⟨alive, rfl⟩
  | meanwhile before clock world alive ih => exact ⟨alive, ih.2⟩
  | presented before ran unnoted ih =>
      obtain ⟨alive, recorded⟩ := ih
      obtain ⟨after, passed, rfl⟩ := Host.resolveAfresh_eq_ok.mp ran
      obtain ⟨still, same⟩ := standard.recorded_of_unnoted passed unnoted alive
      exact ⟨still, same.trans recorded⟩

end Stream

section Refusal

variable {first next : State ω} {resolution : Resolution} {percent : UInt32} {call : Call (State ω)}

/-- After a pass over an indicator whose update was refused, the refused update counts as the last
presented one if the pass began with something that is not blank, or if the presentation of the active
descendant came back to the indicator and this pass did. Otherwise the last presented update is the
one from before the pass, and from before all silent resolutions that preceded it. -/
theorem recorded_of_refused (standard : engine.IsStandard) (quiet : engine.Quiet target first state)
    (update : context.isProgressUpdate)
    (ran : (engine.host (depth + 1)).resolve target context state = .ok resolution next)
    (made : call ∈ engine.passCalls (engine.host depth) target context state)
    (refused : engine.Refuses target percent call) :
    ((resolution.Speaks ∨ ∃ other ∈ engine.passCalls (engine.host depth) target context state,
        engine.NotesBelow target depth target (engine.nestedContext context) other) →
      next.tracker.recorded target = ⟨some state.clock, some percent⟩) ∧
    (¬ resolution.Speaks → (∀ other ∈ engine.passCalls (engine.host depth) target context state,
        ¬ engine.NotesBelow target depth target (engine.nestedContext context) other) →
      next.tracker.recorded target = first.tracker.recorded target) := by
  obtain ⟨alive, recorded⟩ := quiet.recorded_eq standard
  constructor
  · intro noted
    have notes : engine.Notes target (depth + 1) target context state := by
      rcases noted with spoken | ⟨other, made, called, descendant, active, apart, notes⟩
      · exact .presented update ran spoken
      · exact .descendant made called active apart notes
    have updates := standard.updates_resolve target (depth + 1) target context state
    rw [ran] at updates
    obtain ⟨written, told, new⟩ := updates.new notes
    have asked := refused.told
    rw [standard.world_of_made made] at asked
    cases asked.symm.trans told
    have after : engine.objects.isValid next.world target = .ok true := by
      rw [show next.world = state.world from updates.world]
      exact alive
    exact (standing_of_valid after).symm.trans new
  · intro silent unnoted
    refine Eq.trans (standard.recorded_of_unnoted ran (fun notes => ?_) alive).2 recorded
    cases notes with
    | presented update again spoken =>
        cases ran.symm.trans again
        exact silent spoken
    | descendant made called active apart noted =>
        exact unnoted _ made ⟨called, _, active, apart, noted⟩

end Refusal

section Example

def downloadKey : FormatKey := ⟨⟨"progress bar"⟩, .standard, .unfocused⟩

/-- An indicator at 45 percent that is presented with its name. -/
def download : Engine Unit where
  objects :=
    { isValid := fun _ _ => .ok true
      category := fun _ _ => .ok (some downloadKey.category)
      name := fun _ _ => .ok (some "Download")
      percent := fun _ _ => .ok (some 45) }
  table := Table.empty.insert downloadKey
    (.sequence [.reference "labelAndName", .reference "progressBarValue"])
  registry := (Fields.registry : Except RegistryError (Registry (Provider Unit))).toOption.getD .empty
  settings := .standard

theorem isStandard_download : download.IsStandard :=
  isStandard_of_registry (by rw [download])

/-- An update to 40 percent has just been presented. -/
def justPresented : State Unit :=
  { State.start .standard 1001 () with tracker := ⟨[(1, ⟨some 1000, some 40⟩)], .standard⟩ }

theorem recordProgress_justPresented :
    download.objects.recordProgress 1 (some 40) (some 1000) (.start .standard 1001 ()) =
      .ok () justPresented := rfl

def progressUpdate : Context := { Context.standard with isProgressUpdate := true }

theorem resolve_download : ∃ resolution next,
    (download.host 1).resolve 1 progressUpdate justPresented = .ok resolution next ∧
      resolution.fragments = [.text "Download"] ∧ next.tracker.entries = [(1, ⟨some 1001, some 45⟩)] := by
  have one : (download.host 1).resolve = download.pass (download.host 0) := rfl
  have checked : okWith (fun resolution next => decide (resolution.fragments = [.text "Download"] ∧
      next.tracker.entries = [(1, ⟨some 1001, some 45⟩)]))
      ((download.host 1).resolve 1 progressUpdate justPresented) = true := by
    simp only [one, pass, present_eq, Expr.settle_eq_settleOnce, isStandard_download.fields_eq,
      Fields.quantities_eq]
    decide +kernel
  obtain ⟨resolution, next, ran, told⟩ := exists_ok_of_okWith checked
  exact ⟨resolution, next, ran, of_decide_eq_true told⟩

theorem found_download : (download.passCalls (download.host 0) 1 progressUpdate justPresented).map
    (fun call => (call.name, call.found.tracker, call.found.clock)) =
      [(⟨"labelAndName"⟩, justPresented.tracker, justPresented.clock),
        (⟨"progressBarValue"⟩, justPresented.tracker, justPresented.clock)] := by
  simp only [passCalls, calls, Expr.calls, Expr.settle_eq_settleOnce, isStandard_download.fields_eq,
    Fields.quantities_eq]
  decide +kernel

theorem refused_download : ∃ call ∈ download.passCalls (download.host 0) 1 progressUpdate justPresented,
    download.Refuses 1 45 call := by
  have all := found_download
  simp only [List.map_eq_cons_iff, List.map_eq_nil_iff, Prod.mk.injEq] at all
  obtain ⟨first, _, split, -, call, _, rfl, ⟨called, tracked, timed⟩, rfl⟩ := all
  have refused : Tracker.shouldPresent (download.objects.isValid call.found.world) justPresented.clock 1
      45 justPresented.tracker = .ok false justPresented.tracker := rfl
  refine ⟨call, by simp [split], called, rfl, { call.found with tracker := justPresented.tracker }, ?_⟩
  simp only [ObjectModel.shouldPresent, track, tracked, timed, refused]

/-- The name is said, so that 45 percent counts as presented although it is not said. -/
theorem recorded_of_refused_download : ∃ resolution next,
    (download.host 1).resolve 1 progressUpdate justPresented = .ok resolution next ∧
      resolution.fragments = [.text "Download"] ∧ next.tracker.recorded 1 = ⟨some 1001, some 45⟩ := by
  obtain ⟨resolution, next, ran, told, -⟩ := resolve_download
  obtain ⟨call, made, refused⟩ := refused_download
  have spoken : resolution.Speaks := by
    rw [Resolution.Speaks, told]
    rfl
  have recorded := recorded_of_refused isStandard_download (.start rfl) rfl ran made refused
  exact ⟨resolution, next, ran, told, recorded.1 (.inl spoken)⟩

/-- It is not so that a refused update leaves the last presented one, not even where this has just been
recorded. -/
theorem not_unchanged_of_refused : ¬ ∀ (engine : Engine Unit), engine.IsStandard →
    ∀ (depth : Nat) (target : Target) (context : Context) (value percent : UInt32)
      (time clock : UInt64) (state next : State Unit) (resolution : Resolution)
      (call : Call (State Unit)),
      engine.objects.recordProgress target (some value) (some time)
        (.start engine.settings.progress clock ()) = .ok () state →
      context.isProgressUpdate →
      (engine.host (depth + 1)).resolve target context state = .ok resolution next →
      call ∈ engine.passCalls (engine.host depth) target context state →
      engine.Refuses target percent call →
      next.tracker.recorded target = state.tracker.recorded target := by
  intro unchanged
  obtain ⟨resolution, next, ran, -, left⟩ := resolve_download
  obtain ⟨call, made, refused⟩ := refused_download
  have same := unchanged download isStandard_download 0 1 progressUpdate 40 45 1000 1001 justPresented
    next resolution call recordProgress_justPresented rfl ran made refused
  rw [Tracker.recorded, Tracker.find?, left] at same
  exact absurd same (by decide)

end Example

end Engine
end Narration
