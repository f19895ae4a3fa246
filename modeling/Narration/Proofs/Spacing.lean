import Narration.Proofs.Throttle
/-! How far apart presented updates are. The main result: in a run of resolutions, an update that shows
its percentage comes at least the interval after every pass over the same indicator that began with
something that is not blank. -/
namespace Narration

variable {ω : Type}

theorem Fields.progressBarValue_allowed {target : Target} (invocation : Invocation ω)
    {percent : UInt32} {state next : State ω} {first : Fragment} {rest : List Fragment}
    (update : invocation.context.isProgressUpdate)
    (told : invocation.objects.percent state.world target = .ok (some percent))
    (ran : progressBarValue target invocation state = .ok (first :: rest) next) :
    ∃ after, invocation.objects.shouldPresent target percent state = .ok true after := by
  have asked : ask (invocation.objects.percent · target) state = .ok (some percent) state :=
    ask_of_ok told
  rw [progressBarValue, bind_of_ok asked] at ran
  simp only [update, if_true] at ran
  obtain ⟨allowed, after, presented, ran⟩ := bind_eq_ok.mp ran
  cases allowed with
  | false => cases ran
  | true => exact ⟨after, presented⟩

namespace Tracker

/-- An update that is allowed, though not the complete value, comes the interval after the last
presented one. -/
theorem interval_le_of_allows {settings : ProgressSettings} {last : ProgressEntry} {now time : UInt64}
    {percent : UInt32} (allowed : allows settings last now percent)
    (incomplete : percent ≠ settings.completeValue) (presented : last.updatedAt = some time)
    (past : time ≤ now) : time.toNat + settings.updateInterval.toNat ≤ now.toNat := by
  have spaced := ((allows_iff.mp allowed).resolve_left incomplete).2 time presented
  have before : time.toNat ≤ now.toNat := past
  rcases spaced with instant | spaced
  · rw [instant]
    exact before
  · exact spaced

end Tracker

/-- The settings of the throttle are never changed. -/
theorem ignoresUpdates_settings (objects : ObjectModel ω) :
    IgnoresUpdates objects fun state : State ω => state.tracker.settings where
  shouldPresent target value state := by
    rw [ObjectModel.shouldPresent, finalState_track]
    exact Tracker.keeps_settings_shouldPresent _ _ _ _ state.tracker
  numberAndCount target state := by
    rw [ObjectModel.numberAndCount, finalState_track]
    exact Tracker.keeps_settings_numberAndCount _ _ state.tracker
  recordProgress target state := by
    rw [ObjectModel.recordProgress, finalState_track]
    exact Tracker.keeps_settings_record _ _ _ _ _ _ state.tracker

namespace Engine

/-- Between two states of one moment, the last presented update of `bar` stays as it was or becomes one
of this moment. -/
structure Renews (engine : Engine ω) (bar : Target) (state next : State ω) : Prop where
  clock : next.clock = state.clock
  world : next.world = state.world
  settings : next.tracker.settings = state.tracker.settings
  last : engine.standing bar next = engine.standing bar state ∨
    (engine.standing bar next).updatedAt = some state.clock

/-- The pass over `bar` on level `level` from `inner` and `found` is the pass over `target` itself, or
nested in it: it presents an active descendant. -/
inductive Reaches (engine : Engine ω) (bar : Target) (level : Nat) (inner : Context)
    (found : State ω) : Nat → Target → Context → State ω → Prop
  | here : Reaches engine bar level inner found level bar inner found
  | descendant {depth : Nat} {target other : Target} {context : Context} {state : State ω}
      {call : Call (State ω)}
      (made : call ∈ engine.passCalls (engine.host depth) target context state)
      (called : call.name = ⟨"activeDescendant"⟩)
      (active : engine.objects.activeDescendant call.found.world target = .ok (some other))
      (apart : other ≠ target)
      (reached : Reaches engine bar level inner found depth other (engine.nestedContext context)
        call.found) : Reaches engine bar level inner found (depth + 1) target context state

/-- A resolution says the percentage of `bar` that its provider computed. -/
structure ShowsPercentage (engine : Engine ω) (bar : Target) (percent : UInt32) (found : State ω)
    (resolution : Resolution) : Prop where
  told : engine.objects.percent found.world bar = .ok (some percent)
  computed : resolution.bindings.value? ⟨"progressBarValue"⟩ = some [.text (Fields.percentage percent)]
  said : .text (Fields.percentage percent) ∈ resolution.fragments

variable {engine : Engine ω} {bar target : Target} {percent : UInt32} {depth level : Nat}
  {context inner : Context} {state between next found : State ω} {resolution : Resolution}

theorem Renews.refl : engine.Renews bar state state := ⟨rfl, rfl, rfl, .inl rfl⟩

theorem Renews.trans (first : engine.Renews bar state between)
    (second : engine.Renews bar between next) : engine.Renews bar state next where
  clock := second.clock.trans first.clock
  world := second.world.trans first.world
  settings := second.settings.trans first.settings
  last := by
    rcases second.last with same | new
    · rw [same]
      exact first.last
    · rw [first.clock] at new
      exact .inr new

theorem Updates.renews {noted : Prop} (updates : engine.Updates bar noted state next)
    (settings : next.tracker.settings = state.tracker.settings) : engine.Renews bar state next where
  clock := updates.clock
  world := updates.world
  settings := settings
  last := by
    by_cases noted : noted
    · obtain ⟨percent, -, written⟩ := updates.new noted
      rw [written]
      exact .inr rfl
    · exact .inl (updates.old noted)

theorem renews_started : engine.Renews bar state (started context state) := by
  refine Updates.renews updates_started ?_
  unfold started
  split <;> rfl

theorem bindings_of_conclude {key : FormatKey} {settled : Settled}
    (ran : engine.conclude target context key settled state = .ok resolution next) :
    resolution.bindings = settled.bindings := by
  rw [conclude_eq_ok engine ran]
  split <;> rfl

section Standard

variable (standard : engine.IsStandard)
include standard

theorem IsStandard.eq_progressBarValue {field : Provider ω}
    (provided : engine.registry.provider? ⟨"progressBarValue"⟩ = some field) :
    field = Fields.progressBarValue :=
  standard.provider_unique (standard.provider?_eq_some.mp provided) (by simp [Fields.quantities_eq])

theorem IsStandard.renews_fields {key : FormatKey} {expression : Expr} {name : QuantityName}
    {compute : Action (State ω) (List Fragment)}
    (provided : engine.fields (engine.host depth) target inner key expression name = some compute)
    (state : State ω) : engine.Renews bar state (finalState (compute state)) :=
  (standard.updates_call (standard.updates_resolve bar depth) provided state).renews
    (standard.keeps_fields_of_updates (fun _ _ => rfl) (ignoresUpdates_settings _) provided state)

/-- Each call of a pass finds what the throttle was, except for updates of the moment. -/
theorem IsStandard.renews_of_made {call : Call (State ω)}
    (made : call ∈ engine.passCalls (engine.host depth) target context state) :
    engine.Renews bar state call.found := by
  cases opens : engine.opening? target context state with
  | none => simp only [passCalls, opens, List.not_mem_nil] at made
  | some opening =>
      obtain ⟨key, body⟩ := opening
      rw [passCalls_of_opening _ opens] at made
      exact (engine.follow_calls _ _ _ _ _ _).preserves (engine.Renews bar state ·)
        (fun name compute provided between renews =>
          renews.trans (standard.renews_fields provided between)) renews_started call made

theorem Reaches.renews (reaches : engine.Reaches bar level inner found depth target context state) :
    engine.Renews bar state found := by
  induction reaches with
  | here => exact .refl
  | descendant made called active apart reached ih => exact (standard.renews_of_made made).trans ih

/-- A pass over `bar` for an update computes its percentage only if the throttle allows it. -/
theorem IsStandard.allowed_of_shows (update : inner.isProgressUpdate)
    (ran : (engine.host level).resolve bar inner found = .ok resolution next)
    (shows : engine.ShowsPercentage bar percent found resolution) :
    ∃ asked after, engine.Renews bar found asked ∧
      engine.objects.shouldPresent bar percent asked = .ok true after := by
  have bound := shows.computed
  cases level with
  | zero => cases ran
  | succ below =>
      have ran : engine.pass (engine.host below) bar inner found = .ok resolution next := ran
      cases opens : engine.opening? bar inner found with
      | none =>
          obtain ⟨outcome, key, -, skipped⟩ := pass_of_closed (engine.host below) opens
          cases (skipped found rfl).symm.trans ran
          cases bound
      | some opening =>
          obtain ⟨key, body⟩ := opening
          rw [pass_of_opening opens] at ran
          rcases contained_eq_ok.mp ran with ran | ⟨message, -, rfl⟩
          · obtain ⟨settled, between, settling, concluded⟩ := present_cases engine ran
            rw [bindings_of_conclude concluded] at bound
            have computed := Expr.bound_or_computed (engine.Renews bar found ·)
              (fun name compute provided current renews =>
                renews.trans (standard.renews_fields provided current))
              renews_started settling bound
            rcases computed with fresh | ⟨compute, asked, after, provided, renews, computed⟩
            · cases fresh
            · obtain ⟨field, registered, rfl⟩ := fields_eq_some provided
              cases standard.eq_progressBarValue registered
              have told := shows.told
              rw [← renews.world] at told
              obtain ⟨later, allowed⟩ := Fields.progressBarValue_allowed
                (engine.invocation (engine.host below) (innerContext inner key) key
                  (engine.evaluated inner key body)) update told (guarded_eq_ok.mp computed)
              exact ⟨asked, later, renews, allowed⟩
          · cases bound

end Standard

/-- What the throttle allows comes the interval after the last presented update. -/
theorem interval_le_of_allowed {last : UInt64} (alive : engine.objects.isValid state.world bar = .ok true)
    (allowed : engine.objects.shouldPresent bar percent state = .ok true next)
    (incomplete : percent ≠ state.tracker.settings.completeValue)
    (presented : (engine.standing bar state).updatedAt = some last) (past : last ≤ state.clock) :
    last.toNat + state.tracker.settings.updateInterval.toNat ≤ state.clock.toNat := by
  rw [ObjectModel.shouldPresent, track] at allowed
  cases asked : Tracker.shouldPresent (engine.objects.isValid state.world) state.clock bar percent
      state.tracker with
  | error halt tracker =>
      rw [asked] at allowed
      cases allowed
  | ok due tracker =>
      rw [asked] at allowed
      cases allowed
      obtain ⟨-, -, due⟩ := Tracker.shouldPresent_eq_ok asked
      have settings : tracker.settings = state.tracker.settings :=
        (Tracker.keeps_settings_shouldPresent _ _ _ _).of_eq asked
      have standing : Tracker.standing (engine.objects.isValid state.world) bar tracker =
          engine.standing bar state := (Tracker.keeps_shouldPresent _ _ _ _ _).of_eq asked
      rw [Tracker.standing_of_valid alive] at standing
      rw [settings, standing] at due
      exact Tracker.interval_le_of_allows due.symm incomplete presented past

section Passes

/-- Whether the pass over `target` or one that is nested in it is over `bar`, for an update, and has a
property of the state in which it begins and of its resolution. -/
def HasPass (engine : Engine ω) (bar : Target) (holds : State ω → Resolution → Prop) (depth : Nat)
    (target : Target) (context : Context) (state : State ω) : Prop :=
  ∃ level inner found resolution next,
    engine.Reaches bar level inner found depth target context state ∧ inner.isProgressUpdate ∧
      (engine.host level).resolve bar inner found = .ok resolution next ∧ holds found resolution

theorem Reaches.notes (reaches : engine.Reaches bar level inner found depth target context state)
    (update : inner.isProgressUpdate)
    (ran : (engine.host level).resolve bar inner found = .ok resolution next)
    (spoken : resolution.Speaks) : engine.Notes bar depth target context state := by
  induction reaches with
  | here => exact .presented update ran spoken
  | descendant made called active apart reached ih => exact .descendant made called active apart ih

/-- A pass notes an update of `bar` exactly if one of its passes over `bar` speaks. -/
theorem notes_iff_hasPass :
    engine.Notes bar depth target context state ↔
      engine.HasPass bar (fun _ resolution => resolution.Speaks) depth target context state := by
  constructor
  · intro notes
    induction notes with
    | presented update ran spoken => exact ⟨_, _, _, _, _, .here, update, ran, spoken⟩
    | descendant made called active apart noted ih =>
        obtain ⟨level, inner, found, resolution, next, reaches, rest⟩ := ih
        exact ⟨level, inner, found, resolution, next, .descendant made called active apart reaches, rest⟩
  · rintro ⟨level, inner, found, resolution, next, reaches, update, ran, spoken⟩
    exact reaches.notes update ran spoken

/-- An update that shows its percentage comes the interval after the last presented one. -/
theorem IsStandard.interval_le_of_shows (standard : engine.IsStandard) {last : UInt64}
    (alive : engine.objects.isValid state.world bar = .ok true)
    (shows : engine.HasPass bar (engine.ShowsPercentage bar percent) depth target context state)
    (incomplete : percent ≠ state.tracker.settings.completeValue)
    (presented : (engine.standing bar state).updatedAt = some last) (past : last ≤ state.clock) :
    last.toNat + state.tracker.settings.updateInterval.toNat ≤ state.clock.toNat := by
  obtain ⟨level, inner, found, resolution, next, reaches, update, ran, shows⟩ := shows
  obtain ⟨asked, after, renews, allowed⟩ := standard.allowed_of_shows update ran shows
  have renews := (reaches.renews standard).trans renews
  rw [← renews.settings] at incomplete ⊢
  rw [← renews.clock] at past ⊢
  rw [← renews.world] at alive
  rcases renews.last with same | new
  · rw [← same] at presented
    exact interval_le_of_allowed alive allowed incomplete presented past
  · -- The update is presented again in the same moment, so that the interval has no length.
    rw [← renews.clock] at new
    have instant := interval_le_of_allowed alive allowed incomplete new (UInt64.le_refl _)
    have before : last.toNat ≤ asked.clock.toNat := past
    omega

end Passes

section Runs

/-- An outermost pass and the state in which it begins. -/
structure Visit (ω : Type) where
  target : Target
  context : Context
  state : State ω

def Visit.Has (engine : Engine ω) (bar : Target) (visit : Visit ω)
    (holds : State ω → Resolution → Prop) : Prop :=
  engine.HasPass bar holds depthLimit visit.target visit.context visit.state

/-- Whether one of the passes of a visit over `bar` begins with something that is not blank. -/
def Visit.Speaks (engine : Engine ω) (bar : Target) (visit : Visit ω) : Prop :=
  visit.Has engine bar fun _ resolution => resolution.Speaks

/-- A run of resolutions of any objects from a fresh engine on, with the visits so far. The clock never
goes back, the world changes at will, but `bar` stays valid. -/
inductive Run (engine : Engine ω) (bar : Target) : List (Visit ω) → State ω → Prop
  | start (clock : UInt64) (world : ω) (alive : engine.objects.isValid world bar = .ok true) :
      Run engine bar [] (.start engine.settings.progress clock world)
  | meanwhile {log : List (Visit ω)} {state : State ω} (before : Run engine bar log state)
      {clock : UInt64} (later : state.clock ≤ clock) {world : ω}
      (alive : engine.objects.isValid world bar = .ok true) :
      Run engine bar log { state with clock, world }
  | resolved {log : List (Visit ω)} {state next : State ω} {target : Target} {context : Context}
      {resolution : Resolution} (before : Run engine bar log state)
      (ran : engine.resolve target context state = .ok resolution next) :
      Run engine bar (log ++ [⟨target, context, { state with fallbacks := state.saved }⟩]) next

/-- The invariant of a run: the throttle knows of the last visit that spoke. -/
structure Paced (engine : Engine ω) (bar : Target) (log : List (Visit ω)) (state : State ω) :
    Prop where
  alive : engine.objects.isValid state.world bar = .ok true
  settings : state.tracker.settings = engine.settings.progress
  spoken : ∀ visit ∈ log, visit.Speaks engine bar →
    ∃ last, (state.tracker.recorded bar).updatedAt = some last ∧ visit.state.clock ≤ last
  past : ∀ last, (state.tracker.recorded bar).updatedAt = some last → last ≤ state.clock
  silent : (∀ visit ∈ log, ¬ visit.Speaks engine bar) → state.tracker.recorded bar = .fresh

variable {log : List (Visit ω)}

theorem paced_start {clock : UInt64} {world : ω} (alive : engine.objects.isValid world bar = .ok true) :
    engine.Paced bar [] (.start engine.settings.progress clock world) where
  alive := alive
  settings := rfl
  spoken visit member := by cases member
  past last presented := by cases presented
  silent _ := rfl

theorem Paced.meanwhile (paced : engine.Paced bar log state) {clock : UInt64}
    (later : state.clock ≤ clock) {world : ω} (alive : engine.objects.isValid world bar = .ok true) :
    engine.Paced bar log { state with clock, world } where
  alive := alive
  settings := paced.settings
  spoken := paced.spoken
  past last presented := UInt64.le_trans (paced.past last presented) later
  silent := paced.silent

/-- A visit that speaks is the last presented update from then on. -/
theorem Paced.spoke (paced : engine.Paced bar log state) {visit : Visit ω}
    (speaks : visit.Speaks engine bar) (moment : visit.state.clock = state.clock)
    (alive : engine.objects.isValid next.world bar = .ok true)
    (settings : next.tracker.settings = engine.settings.progress) (clock : next.clock = state.clock)
    (new : (next.tracker.recorded bar).updatedAt = some state.clock) :
    engine.Paced bar (log ++ [visit]) next where
  alive := alive
  settings := settings
  spoken other member spoke := by
    refine ⟨state.clock, new, ?_⟩
    rcases List.mem_append.mp member with earlier | this
    · obtain ⟨last, presented, before⟩ := paced.spoken other earlier spoke
      exact UInt64.le_trans before (paced.past last presented)
    · rw [List.mem_singleton.mp this, moment]
      exact UInt64.le_refl _
  past last presented := by
    rw [new] at presented
    cases presented
    rw [clock]
    exact UInt64.le_refl _
  silent allSilent := absurd speaks (allSilent visit (List.mem_append_right _ (.head _)))

/-- Any other visit leaves the last presented update. -/
theorem Paced.kept (paced : engine.Paced bar log state) {visit : Visit ω}
    (quiet : ¬ visit.Speaks engine bar) (alive : engine.objects.isValid next.world bar = .ok true)
    (settings : next.tracker.settings = engine.settings.progress) (clock : next.clock = state.clock)
    (same : next.tracker.recorded bar = state.tracker.recorded bar) :
    engine.Paced bar (log ++ [visit]) next where
  alive := alive
  settings := settings
  spoken other member spoke := by
    rw [same]
    rcases List.mem_append.mp member with earlier | this
    · exact paced.spoken other earlier spoke
    · rw [List.mem_singleton.mp this] at spoke
      exact absurd spoke quiet
  past last presented := by
    rw [same] at presented
    rw [clock]
    exact paced.past last presented
  silent allSilent := by
    rw [same]
    apply paced.silent
    intro other member
    exact allSilent other (List.mem_append_left _ member)

/-- What a visit does to the last presented update is all that the throttle has to know. -/
theorem Paced.visited (standard : engine.IsStandard) (paced : engine.Paced bar log state)
    (ran : (engine.host depthLimit).resolve target context state = .ok resolution next) :
    engine.Paced bar (log ++ [⟨target, context, state⟩]) next := by
  have updates : engine.Updates bar (engine.Notes bar depthLimit target context state) state next := by
    have updates := standard.updates_resolve bar depthLimit target context state
    rwa [ran] at updates
  have kept := (standard.keeps_host_of_updates (fun _ _ => rfl) (ignoresUpdates_settings _)
    depthLimit).2 target context
  have settings : next.tracker.settings = engine.settings.progress :=
    (kept.of_eq ran).trans paced.settings
  have world : next.world = state.world := updates.world
  have alive : engine.objects.isValid next.world bar = .ok true := by
    rw [world]
    exact paced.alive
  by_cases speaks : Visit.Speaks engine bar ⟨target, context, state⟩
  · obtain ⟨percent, -, written⟩ := updates.new (notes_iff_hasPass.mpr speaks)
    rw [standing_of_valid alive] at written
    have new : (next.tracker.recorded bar).updatedAt = some state.clock := congrArg _ written
    exact paced.spoke speaks rfl alive settings updates.clock new
  · have same := updates.old (mt notes_iff_hasPass.mp speaks)
    rw [standing_of_valid alive, standing_of_valid paced.alive] at same
    exact paced.kept speaks alive settings updates.clock same

/-- The next pass begins with the marks that the last one left. -/
theorem Paced.begun (paced : engine.Paced bar log state) :
    engine.Paced bar log { state with fallbacks := state.saved } :=
  ⟨paced.alive, paced.settings, paced.spoken, paced.past, paced.silent⟩

theorem Paced.interval_le (standard : engine.IsStandard) (paced : engine.Paced bar log state)
    {first : Visit ω} (member : first ∈ log) (spoke : first.Speaks engine bar)
    (shows : engine.HasPass bar (engine.ShowsPercentage bar percent) depth target context state)
    (incomplete : percent ≠ engine.settings.progress.completeValue) :
    first.state.clock.toNat + engine.settings.progress.updateInterval.toNat ≤ state.clock.toNat := by
  obtain ⟨last, presented, after⟩ := paced.spoken first member spoke
  have past := paced.past last presented
  rw [← standing_of_valid paced.alive] at presented
  rw [← paced.settings] at incomplete ⊢
  have spaced := standard.interval_le_of_shows paced.alive shows incomplete presented past
  have earlier : first.state.clock.toNat ≤ last.toNat := after
  omega

theorem Run.paced (standard : engine.IsStandard) (run : engine.Run bar log state) :
    engine.Paced bar log state := by
  induction run with
  | start clock world alive => exact paced_start alive
  | meanwhile before later alive ih => exact ih.meanwhile later alive
  | @resolved log state next target context resolution before ran ih =>
      obtain ⟨after, passed, rfl⟩ := Host.resolveAfresh_eq_ok.mp ran
      have visited := ih.begun.visited standard passed
      exact ⟨visited.alive, visited.settings, visited.spoken, visited.past, visited.silent⟩

/-- An update that shows its percentage, unless it is the complete value, comes at least the interval
after every earlier visit in which a pass over the same indicator began with something that is not
blank. Where no visit did, the throttle has no presented update to go by. -/
theorem shown_after_interval (standard : engine.IsStandard) (run : engine.Run bar log state) :
    log.Pairwise (fun first second => first.Speaks engine bar → ∀ percent,
      second.Has engine bar (engine.ShowsPercentage bar percent) →
        percent ≠ engine.settings.progress.completeValue →
          first.state.clock.toNat + engine.settings.progress.updateInterval.toNat ≤
            second.state.clock.toNat) ∧
    ((∀ visit ∈ log, ¬ visit.Speaks engine bar) → state.tracker.recorded bar = .fresh) := by
  refine ⟨?_, (run.paced standard).silent⟩
  induction run with
  | start clock world alive => exact .nil
  | meanwhile before later alive ih => exact ih
  | resolved before ran ih =>
      refine List.pairwise_append.mpr ⟨ih, List.pairwise_singleton _ _, ?_⟩
      intro first member second this spoke percent shows incomplete
      rw [List.mem_singleton.mp this] at shows ⊢
      exact (before.paced standard).begun.interval_le standard member spoke shows incomplete

end Runs

section Example

theorem has_of_resolve {holds : State ω → Resolution → Prop} (update : context.isProgressUpdate)
    (ran : engine.resolve bar context state = .ok resolution next)
    (held : holds { state with fallbacks := state.saved } resolution) :
    Visit.Has engine bar ⟨bar, context, { state with fallbacks := state.saved }⟩ holds := by
  obtain ⟨after, passed, -⟩ := Host.resolveAfresh_eq_ok.mp ran
  exact ⟨_, _, _, resolution, after, .here, update, passed, held⟩

/-- An engine for indicators that all have the percentage that is the world. -/
def loading (body : Expr) : Engine UInt32 where
  objects :=
    { isValid := fun _ _ => .ok true
      category := fun _ _ => .ok (some downloadKey.category)
      percent := fun percent _ => .ok (some percent) }
  table := Table.empty.insert downloadKey body
  registry := (Fields.registry : Except RegistryError (Registry (Provider UInt32))).toOption.getD .empty
  settings := .standard

theorem isStandard_loading (body : Expr) : (loading body).IsStandard :=
  isStandard_of_registry (by rw [loading])

theorem host_loading (body : Expr) :
    ((loading body).host depthLimit).resolve = (loading body).pass ((loading body).host 999) := rfl

def percentageOnly : Expr := .reference "progressBarValue"

def blankFirst : Expr := .concat (.text "") percentageOnly

def loadingFrom : State UInt32 := .start .standard 1000 10

/-- An update to 10 percent, and another one to 20 percent at a later time. -/
def updateTwice (body : Expr) (later : UInt64) : Action (State UInt32) (Resolution × Resolution) := do
  let first ← (loading body).resolve 1 progressUpdate
  modify fun state => { state with clock := later, world := 20 }
  let second ← (loading body).resolve 1 progressUpdate
  return (first, second)

/-- What is said, and what the field computed. -/
def heard (resolution : Resolution) : List Fragment × Option (List Fragment) :=
  (resolution.fragments, resolution.bindings.value? ⟨"progressBarValue"⟩)

/-- The two updates are a run. -/
theorem run_updateTwice {body : Expr} {later : UInt64} {first second : Resolution}
    {final : State UInt32} (forward : 1000 ≤ later)
    (ran : updateTwice body later loadingFrom = .ok (first, second) final) :
    ∃ one two : Visit UInt32, (loading body).Run 1 [one, two] final ∧
      (one.state.clock = 1000 ∧ one.state.world = 10 ∧
        ∀ holds : State UInt32 → Resolution → Prop, holds one.state first →
          one.Has (loading body) 1 holds) ∧
      (two.state.clock = later ∧ two.state.world = 20 ∧
        ∀ holds : State UInt32 → Resolution → Prop, holds two.state second →
          two.Has (loading body) 1 holds) := by
  obtain ⟨_, after, ranFirst, rest⟩ := bind_eq_ok.mp ran
  obtain ⟨_, between, moved, rest⟩ := bind_eq_ok.mp rest
  obtain ⟨_, next, ranSecond, told⟩ := bind_eq_ok.mp rest
  obtain ⟨told, rfl⟩ := pure_eq_ok.mp told
  cases told
  obtain rfl : _ = between := (EStateM.Result.ok.inj moved).2
  have begun : (loading body).Run 1 [] loadingFrom := .start 1000 10 rfl
  have earlier := begun.resolved ranFirst
  obtain ⟨passed, resolved, left⟩ := Host.resolveAfresh_eq_ok.mp ranFirst
  have updates := (isStandard_loading body).updates_resolve 1 depthLimit 1 progressUpdate
    { loadingFrom with fallbacks := loadingFrom.saved }
  rw [resolved] at updates
  have clock : after.clock = 1000 := by
    rw [left]
    exact updates.clock
  have waited : (loading body).Run 1 _ { after with clock := later, world := 20 } :=
    earlier.meanwhile (by rw [clock]; exact forward) rfl
  exact ⟨_, _, waited.resolved ranSecond, ⟨rfl, rfl, fun holds held => has_of_resolve rfl ranFirst held⟩,
    ⟨rfl, rfl, fun holds held => has_of_resolve rfl ranSecond held⟩⟩

theorem shows_of_heard {body : Expr} {state : State UInt32} (lead : List Fragment) (percent : UInt32)
    (told : heard resolution = (lead ++ [.text (Fields.percentage percent)],
      some [.text (Fields.percentage percent)])) (world : state.world = percent) :
    (loading body).ShowsPercentage 1 percent state resolution where
  told := by
    rw [world]
    rfl
  computed := congrArg Prod.snd told
  said := by
    rw [show resolution.fragments = _ from congrArg Prod.fst told]
    exact List.mem_append_right lead (.head _)

/-- Both updates are presented, as there are eleven seconds between them. -/
theorem shown_after_interval_loading : ∃ (one two : Visit UInt32) (state : State UInt32),
    (loading percentageOnly).Run 1 [one, two] state ∧
      one.Speaks (loading percentageOnly) 1 ∧
      two.Has (loading percentageOnly) 1
        ((loading percentageOnly).ShowsPercentage 1 20) ∧
      two.state.clock = 12000 ∧ one.state.clock.toNat + 10000 ≤ two.state.clock.toNat := by
  have checked : okWith (fun heardTwice _ => decide
      (heard heardTwice.1 = ([.text "10 percent"], some [.text "10 percent"]) ∧
        heard heardTwice.2 = ([.text "20 percent"], some [.text "20 percent"])))
      (updateTwice percentageOnly 12000 loadingFrom) = true := by
    simp only [updateTwice, resolve, Host.resolveAfresh, host_loading, pass, present_eq,
      Expr.settle_eq_settleOnce, (isStandard_loading _).fields_eq, Fields.quantities_eq]
    decide +kernel
  obtain ⟨⟨first, second⟩, state, ran, told⟩ := exists_ok_of_okWith checked
  obtain ⟨toldFirst, toldSecond⟩ := of_decide_eq_true told
  obtain ⟨one, two, run, ⟨-, -, hasOne⟩, clock, world, hasTwo⟩ := run_updateTwice (by decide) ran
  have spoke : one.Speaks (loading percentageOnly) 1 := by
    apply hasOne
    rw [Resolution.Speaks, show first.fragments = _ from congrArg Prod.fst toldFirst]
    rfl
  have shows : two.Has (loading percentageOnly) 1 ((loading percentageOnly).ShowsPercentage 1 20) :=
    hasTwo _ (shows_of_heard [] 20 toldSecond world)
  have spaced := (List.pairwise_cons.mp
    (shown_after_interval (isStandard_loading _) run).1).1 two (.head _) spoke 20 shows (by decide)
  exact ⟨one, two, state, run, spoke, shows, clock, spaced⟩

/-- It is not so that shown percentages are always the interval apart: where a blank stands before the
percentage, no update is noted. -/
theorem not_shown_after_interval : ¬ ∀ (engine : Engine UInt32), engine.IsStandard →
    ∀ (bar : Target) (log : List (Visit UInt32)) (state : State UInt32), engine.Run bar log state →
      log.Pairwise fun first second => ∀ earlier percent,
        first.Has engine bar (engine.ShowsPercentage bar earlier) →
          second.Has engine bar (engine.ShowsPercentage bar percent) →
            percent ≠ engine.settings.progress.completeValue →
              first.state.clock.toNat + engine.settings.progress.updateInterval.toNat ≤
                second.state.clock.toNat := by
  intro apart
  have checked : okWith (fun heardTwice _ => decide
      (heard heardTwice.1 = ([.text "", .text "10 percent"], some [.text "10 percent"]) ∧
        heard heardTwice.2 = ([.text "", .text "20 percent"], some [.text "20 percent"])))
      (updateTwice blankFirst 1001 loadingFrom) = true := by
    simp only [updateTwice, resolve, Host.resolveAfresh, host_loading, pass, present_eq,
      Expr.settle_eq_settleOnce, (isStandard_loading _).fields_eq, Fields.quantities_eq]
    decide +kernel
  obtain ⟨⟨first, second⟩, state, ran, told⟩ := exists_ok_of_okWith checked
  obtain ⟨toldFirst, toldSecond⟩ := of_decide_eq_true told
  obtain ⟨one, two, run, ⟨clockOne, worldOne, hasOne⟩, clockTwo, worldTwo, hasTwo⟩ :=
    run_updateTwice (by decide) ran
  have spaced := (List.pairwise_cons.mp (apart _ (isStandard_loading _) 1 _ state run)).1 two
    (.head _) 10 20 (hasOne _ (shows_of_heard [.text ""] 10 toldFirst worldOne))
    (hasTwo _ (shows_of_heard [.text ""] 20 toldSecond worldTwo)) (by decide)
  rw [clockOne, clockTwo] at spaced
  exact absurd spaced (by decide)

end Example

end Engine
end Narration
