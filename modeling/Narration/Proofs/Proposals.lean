import Mathlib.Logic.Relation
import Narration.Proofs.Failure
import Narration.Proofs.History
/-! The rule of throttling over whole runs. The main result: of the updates of an indicator that are
proposed one after another, each is presented or not as the updates presented before it demand, however
the clock moves and whatever happens to other indicators in between. -/
namespace Narration.Tracker

/-- An update that was proposed at some time, and whether it was presented. -/
structure Proposal where
  value : UInt32
  time : UInt64
  presented : Bool
  deriving DecidableEq, Repr

/-- The last one that was presented. -/
def lastPresented? (log : List Proposal) : Option Proposal := (log.filter (·.presented)).getLast?

/-- What decides on a proposal: the updates that were presented before it, and nothing else. Times are
natural numbers here, which do not wrap. -/
structure Obeys (settings : ProgressSettings) (earlier : List Proposal) (proposal : Proposal) :
    Prop where
  first : earlier = [] → proposal.presented = true
  complete : proposal.value = settings.completeValue → proposal.presented = true
  other : earlier ≠ [] → proposal.value ≠ settings.completeValue →
    ∃ last, lastPresented? earlier = some last ∧
      (proposal.presented = true ↔ proposal.value ≠ last.value ∧
        (settings.updateInterval = 0 ∨
          last.time.toNat + settings.updateInterval.toNat ≤ proposal.time.toNat))

/-- An operation that finds `bar` valid and records no update of it. It may break down. -/
def Aside (bar : Target) (tracker next : Tracker) : Prop :=
  ∃ access : Access, access.valid bar = .ok true ∧ (∀ update, ¬ access.Records bar update) ∧
    finalState (access.perform tracker) = next

/-- A run from a fresh tracker, with the updates of `bar` that were proposed. The tracker decides on each
of them, and those that it allows are recorded at the same time. -/
inductive Proposes (settings : ProgressSettings) (bar : Target) : List Proposal → Tracker → Prop
  | start : Proposes settings bar [] (.empty settings)
  | aside {log : List Proposal} {tracker next : Tracker} (before : Proposes settings bar log tracker)
      (ran : Aside bar tracker next) : Proposes settings bar log next
  | refused {log : List Proposal} {tracker next : Tracker} {valid : Target → Query Bool}
      {time : UInt64} {value : UInt32} (before : Proposes settings bar log tracker)
      (alive : valid bar = .ok true)
      (asked : shouldPresent valid time bar value tracker = .ok false next) :
      Proposes settings bar (log ++ [⟨value, time, false⟩]) next
  | presented {log : List Proposal} {tracker allowed between next : Tracker}
      {valid later : Target → Query Bool} {percent : Target → Query (Option UInt32)} {time : UInt64}
      {value : UInt32} (before : Proposes settings bar log tracker) (alive : valid bar = .ok true)
      (asked : shouldPresent valid time bar value tracker = .ok true allowed)
      (meanwhile : Relation.ReflTransGen (Aside bar) allowed between)
      (recorded : record later percent time bar none (some value) between = .ok () next) :
      Proposes settings bar (log ++ [⟨value, time, true⟩]) next

variable {settings : ProgressSettings} {bar : Target} {tracker next : Tracker} {log : List Proposal}
  {valid : Target → Query Bool} {time : UInt64} {value : UInt32}

section Aside

theorem Access.keeps_standing {access : Access} (unwritten : ∀ update, ¬ access.Records bar update) :
    standing access.valid bar (finalState (access.perform tracker)) =
      standing access.valid bar tracker := by
  obtain ⟨operation, valid, percent, now⟩ := access
  cases operation with
  | prune => exact ((keeps_prune valid bar).bind fun _ => keeps_pure _) tracker
  | entry target => exact ((keeps_entry valid bar target).bind fun _ => keeps_pure _) tracker
  | shouldPresent target value =>
      exact ((keeps_shouldPresent valid bar target now value).bind fun _ => keeps_pure _) tracker
  | numberAndCount target =>
      exact ((keeps_numberAndCount valid bar target).bind fun _ => keeps_pure _) tracker
  | mostRecent =>
      exact (((keeps_prune valid bar).bind fun _ _ => rfl).bind fun _ => keeps_pure _) tracker
  | record target timestamp given =>
      by_cases same : target = bar
      · subst same
        change standing valid target
          (finalState (Tracker.record valid percent now target timestamp given tracker)) = _
        cases ran : Tracker.record valid percent now target timestamp given tracker with
        | error halt next => exact standing_of_record_error ran
        | ok done next =>
            obtain ⟨-, told, asked, -⟩ := record_eq_ok ran
            exact absurd ⟨timestamp, given, told, rfl, asked, rfl⟩ (unwritten _)
      · exact keeps_record same timestamp given tracker

theorem Access.keeps_settings (access : Access) :
    Keeps (fun tracker : Tracker => tracker.settings) access.perform := by
  obtain ⟨operation, valid, percent, now⟩ := access
  cases operation with
  | prune => exact (keeps_settings_prune valid).bind fun _ => keeps_pure _
  | entry target => exact (keeps_settings_entry valid target).bind fun _ => keeps_pure _
  | shouldPresent target value =>
      exact (keeps_settings_shouldPresent valid now target value).bind fun _ => keeps_pure _
  | numberAndCount target =>
      exact (keeps_settings_numberAndCount valid target).bind fun _ => keeps_pure _
  | mostRecent =>
      exact ((keeps_settings_prune valid).bind fun _ _ => rfl).bind fun _ => keeps_pure _
  | record target timestamp given => exact keeps_settings_record valid percent now target timestamp given

theorem Aside.recorded_eq (aside : Aside bar tracker next) :
    next.recorded bar = tracker.recorded bar := by
  obtain ⟨access, alive, unwritten, rfl⟩ := aside
  have kept : standing access.valid bar (finalState (access.perform tracker)) =
      standing access.valid bar tracker := Access.keeps_standing unwritten
  rwa [standing_of_valid alive, standing_of_valid alive] at kept

theorem Aside.settings_eq (aside : Aside bar tracker next) : next.settings = tracker.settings := by
  obtain ⟨access, -, -, rfl⟩ := aside
  exact access.keeps_settings tracker

theorem asides_keep (asides : Relation.ReflTransGen (Aside bar) tracker next) :
    next.recorded bar = tracker.recorded bar ∧ next.settings = tracker.settings := by
  induction asides with
  | refl => exact ⟨rfl, rfl⟩
  | tail before aside ih =>
      obtain ⟨recorded, settings⟩ := ih
      exact ⟨aside.recorded_eq.trans recorded, aside.settings_eq.trans settings⟩

end Aside

section Decision

/-- A decision follows from the last presented update, which it leaves as it was. -/
theorem decision_of_shouldPresent {due : Bool} (alive : valid bar = .ok true)
    (asked : shouldPresent valid time bar value tracker = .ok due next) :
    next.recorded bar = tracker.recorded bar ∧ next.settings = tracker.settings ∧
      due = allows tracker.settings (tracker.recorded bar) time value := by
  have recorded : standing valid bar next = standing valid bar tracker :=
    (keeps_shouldPresent valid bar bar time value).of_eq asked
  rw [standing_of_valid alive, standing_of_valid alive] at recorded
  have settings : next.settings = tracker.settings :=
    (keeps_settings_shouldPresent valid time bar value).of_eq asked
  obtain ⟨-, -, decided⟩ := shouldPresent_eq_ok asked
  rw [recorded, settings] at decided
  exact ⟨recorded, settings, decided⟩

/-- Where validity can be told, the tracker decides on every proposal, and an update can be recorded at
once. -/
theorem exists_decision (told : ∀ other, ∃ alive, valid other = .ok alive)
    (percent : Target → Query (Option UInt32)) (bar : Target) (time : UInt64) (value : UInt32)
    (tracker : Tracker) :
    ∃ due allowed, shouldPresent valid time bar value tracker = .ok due allowed ∧
      ∃ next, record valid percent time bar none (some value) allowed = .ok () next := by
  have swept (tracker : Tracker) : ∃ count next, prune valid tracker = .ok count next := by
    cases ran : prune valid tracker with
    | ok count next => exact ⟨count, next, rfl⟩
    | error halt next =>
        obtain ⟨message, -, other, broken⟩ := failsOnly_prune valid tracker halt next ran
        obtain ⟨alive, answered⟩ := told other
        cases answered.symm.trans broken
  obtain ⟨count, between, pruned⟩ := swept tracker
  have seen : ∃ last, Tracker.entry valid bar tracker = .ok last (between.enroll bar) :=
    ⟨_, bind_of_ok pruned _⟩
  obtain ⟨last, seen⟩ := seen
  refine ⟨_, _, bind_of_ok seen _, ?_⟩
  obtain ⟨dropped, after, again⟩ := swept (between.enroll bar)
  exact ⟨_, bind_of_ok again _⟩

end Decision

section Runs

/-- The invariant of a run: the tracker knows the last presented update, and there is one as soon as
something was proposed. -/
structure Remembers (settings : ProgressSettings) (bar : Target) (log : List Proposal)
    (tracker : Tracker) : Prop where
  settings : tracker.settings = settings
  fresh : log = [] → tracker.recorded bar = .fresh
  last : log ≠ [] → ∃ last, lastPresented? log = some last ∧
    tracker.recorded bar = ⟨some last.time, some last.value⟩

theorem lastPresented?_refused (log : List Proposal) (value : UInt32) (time : UInt64) :
    lastPresented? (log ++ [⟨value, time, false⟩]) = lastPresented? log := by
  simp [lastPresented?]

theorem lastPresented?_presented (log : List Proposal) (value : UInt32) (time : UInt64) :
    lastPresented? (log ++ [⟨value, time, true⟩]) = some ⟨value, time, true⟩ := by
  simp [lastPresented?]

theorem Remembers.of_same (remembers : Remembers settings bar log tracker)
    (recorded : next.recorded bar = tracker.recorded bar) (same : next.settings = tracker.settings) :
    Remembers settings bar log next := by
  obtain ⟨configured, fresh, last⟩ := remembers
  rw [← recorded] at fresh last
  exact ⟨same.trans configured, fresh, last⟩

/-- The decision of the tracker is what the rule demands. -/
theorem Remembers.obeys (remembers : Remembers settings bar log tracker) {due : Bool}
    (decided : due = allows tracker.settings (tracker.recorded bar) time value) :
    Obeys settings log ⟨value, time, due⟩ := by
  rw [remembers.settings] at decided
  refine ⟨fun begins => ?_, fun complete => ?_, fun goes incomplete => ?_⟩
  · rw [remembers.fresh begins] at decided
    rw [decided, allows_iff]
    exact .inr ⟨nofun, nofun⟩
  · rw [decided, allows_iff]
    exact .inl complete
  · obtain ⟨last, found, recorded⟩ := remembers.last goes
    refine ⟨last, found, ?_⟩
    rw [decided, allows_iff, recorded]
    constructor
    · intro allowed
      obtain ⟨changed, spaced⟩ := allowed.resolve_left incomplete
      exact ⟨fun same => changed (congrArg some same.symm), spaced _ rfl⟩
    · rintro ⟨changed, spaced⟩
      refine .inr ⟨fun same => changed (Option.some.inj same).symm, fun time presented => ?_⟩
      cases presented
      exact spaced

/-- What is refused was preceded by something, as the first proposal never is. -/
theorem Remembers.refused (remembers : Remembers settings bar log tracker)
    (obeys : Obeys settings log ⟨value, time, false⟩) :
    Remembers settings bar (log ++ [⟨value, time, false⟩]) tracker where
  settings := remembers.settings
  fresh none := absurd none (List.append_ne_nil_of_right_ne_nil log (List.cons_ne_nil _ _))
  last _ := by
    rw [lastPresented?_refused]
    exact remembers.last fun begins => Bool.false_ne_true (obeys.first begins)

theorem Remembers.presented (same : next.settings = settings)
    (recorded : next.recorded bar = ⟨some time, some value⟩) :
    Remembers settings bar (log ++ [⟨value, time, true⟩]) next where
  settings := same
  fresh none := absurd none (List.append_ne_nil_of_right_ne_nil log (List.cons_ne_nil _ _))
  last _ := ⟨_, lastPresented?_presented log value time, recorded⟩

theorem Proposes.remembers (proposes : Proposes settings bar log tracker) :
    Remembers settings bar log tracker := by
  induction proposes with
  | start => exact ⟨rfl, fun _ => rfl, fun goes => absurd rfl goes⟩
  | aside before aside ih => exact ih.of_same aside.recorded_eq aside.settings_eq
  | refused before alive asked ih =>
      obtain ⟨recorded, same, decided⟩ := decision_of_shouldPresent alive asked
      exact (ih.refused (ih.obeys decided)).of_same recorded same
  | presented before alive asked meanwhile recorded ih =>
      obtain ⟨-, same, -⟩ := decision_of_shouldPresent alive asked
      obtain ⟨-, kept⟩ := asides_keep meanwhile
      obtain ⟨told, given, written⟩ := recorded_record recorded
      cases given
      have left := (keeps_settings_record _ _ _ _ _ _).of_eq recorded
      exact .presented (left.trans (kept.trans (same.trans ih.settings))) written

theorem Proposes.obeys_next (proposes : Proposes settings bar log tracker) {due : Bool}
    (alive : valid bar = .ok true)
    (asked : shouldPresent valid time bar value tracker = .ok due next) :
    Obeys settings log ⟨value, time, due⟩ :=
  proposes.remembers.obeys (decision_of_shouldPresent alive asked).2.2

theorem obey_append {proposal : Proposal}
    (before : ∀ earlier proposal, earlier ++ [proposal] <+: log → Obeys settings earlier proposal)
    (obeys : Obeys settings log proposal) :
    ∀ earlier other, earlier ++ [other] <+: log ++ [proposal] → Obeys settings earlier other := by
  intro earlier other begins
  rcases List.prefix_concat_iff.mp begins with all | begins
  · obtain ⟨rfl, one⟩ := List.append_inj' all rfl
    cases one
    exact obeys
  · exact before earlier other begins

/-- Every proposal of a run is presented or not as the rule demands: the first one and the complete value
always, and any other one exactly if it differs from the last presented one and the interval since that
one is over, as natural numbers. Where validity can be told, the run goes on with any proposal. -/
theorem proposals_obey (proposes : Proposes settings bar log tracker) :
    (∀ earlier proposal, earlier ++ [proposal] <+: log → Obeys settings earlier proposal) ∧
      ∀ (valid : Target → Query Bool) (percent : Target → Query (Option UInt32)) (time : UInt64)
        (value : UInt32), (∀ other, ∃ alive, valid other = .ok alive) →
        ∃ due allowed, shouldPresent valid time bar value tracker = .ok due allowed ∧
          ∃ next, record valid percent time bar none (some value) allowed = .ok () next := by
  refine ⟨?_, fun valid percent time value told => exists_decision told percent bar time value tracker⟩
  induction proposes with
  | start =>
      intro earlier proposal begins
      exact absurd (List.prefix_nil.mp begins)
        (List.append_ne_nil_of_right_ne_nil earlier (List.cons_ne_nil _ _))
  | aside before aside ih => exact ih
  | refused before alive asked ih => exact obey_append ih (before.obeys_next alive asked)
  | presented before alive asked meanwhile recorded ih =>
      exact obey_append ih (before.obeys_next alive asked)

/-- The clock wraps after the first of these. -/
def aroundWrap : List Proposal :=
  [⟨10, 18446744073709551615, true⟩, ⟨20, 4, false⟩, ⟨100, 5, true⟩]

def twoBars (first second : ProgressEntry) : Tracker := ⟨[(1, first), (2, second)], .standard⟩

/-- Another indicator is seen before the first proposal is recorded, and has an update after the second
one. -/
theorem proposes_aroundWrap :
    Proposes .standard 1 aroundWrap (twoBars ⟨some 5, some 100⟩ ⟨some 4, some 7⟩) := by
  let all : Target → Query Bool := fun _ => .ok true
  let percent : Target → Query (Option UInt32) := fun _ => .ok (some 7)
  let last : ProgressEntry := ⟨some 18446744073709551615, some 10⟩
  have allowed : shouldPresent all 18446744073709551615 1 10 (.empty .standard) =
      .ok true ⟨[(1, .fresh)], .standard⟩ := rfl
  have seen : Aside 1 ⟨[(1, .fresh)], .standard⟩ (twoBars .fresh .fresh) :=
    ⟨⟨.numberAndCount 2, all, percent, 0⟩, rfl, nofun, rfl⟩
  have recorded : record all percent 18446744073709551615 1 none (some 10) (twoBars .fresh .fresh) =
      .ok () (twoBars last .fresh) := rfl
  have first := Proposes.start.presented rfl allowed (.single seen) recorded
  have early : shouldPresent all 4 1 20 (twoBars last .fresh) = .ok false (twoBars last .fresh) := rfl
  have updated : Aside 1 (twoBars last .fresh) (twoBars last ⟨some 4, some 7⟩) := by
    refine ⟨⟨.record 2 none none, all, percent, 4⟩, rfl, ?_, rfl⟩
    rintro update ⟨timestamp, given, value, other, -⟩
    cases other
  have complete : shouldPresent all 5 1 100 (twoBars last ⟨some 4, some 7⟩) =
      .ok true (twoBars last ⟨some 4, some 7⟩) := rfl
  exact ((first.refused rfl early).aside updated).presented rfl complete .refl
    (show record all percent 5 1 none (some 100) _ = _ from rfl)

/-- The second proposal is refused, as the interval since the first one ends behind all readings of the
clock. -/
theorem proposals_obey_aroundWrap :
    Proposes .standard 1 aroundWrap (twoBars ⟨some 5, some 100⟩ ⟨some 4, some 7⟩) ∧
      Obeys .standard [⟨10, 18446744073709551615, true⟩] ⟨20, 4, false⟩ ∧
      ∃ due allowed,
        shouldPresent (fun _ => .ok true) 20000 1 30 (twoBars ⟨some 5, some 100⟩ ⟨some 4, some 7⟩) =
          .ok due allowed ∧
        ∃ next, record (fun _ => .ok true) (fun _ => .ok none) 20000 1 none (some 30) allowed =
          .ok () next := by
  obtain ⟨obey, decides⟩ := proposals_obey proposes_aroundWrap
  exact ⟨proposes_aroundWrap, obey _ _ ⟨[⟨100, 5, true⟩], rfl⟩,
    decides _ _ 20000 30 fun _ => ⟨true, rfl⟩⟩

end Runs

end Narration.Tracker
