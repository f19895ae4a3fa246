import Mathlib.Data.List.Induction
import Narration.Proofs.Tracking
/-! The tracker is what the history of its operations dictates: an entry stands as long as no operation
finds its target invalid, in the order in which the standing entries were created, and it holds the last
update that was recorded since. -/
namespace Narration.Tracker

inductive Operation where
  | prune
  | entry (target : Target)
  | shouldPresent (target : Target) (value : UInt32)
  | record (target : Target) (timestamp : Option UInt64) (value : Option UInt32)
  | numberAndCount (target : Target)
  | mostRecent

/-- An operation, together with what the objects and the clock tell while it runs. -/
structure Access where
  operation : Operation
  valid : Target → Query Bool
  percent : Target → Query (Option UInt32)
  now : UInt64

namespace Access

def perform (access : Access) : Action Tracker Unit := do
  match access.operation with
  | .prune => let _ ← Tracker.prune access.valid
  | .entry target => let _ ← Tracker.entry access.valid target
  | .shouldPresent target value =>
    let _ ← Tracker.shouldPresent access.valid access.now target value
  | .record target timestamp value =>
    Tracker.record access.valid access.percent access.now target timestamp value
  | .numberAndCount target => let _ ← Tracker.numberAndCount access.valid target
  | .mostRecent => let _ ← Tracker.mostRecent access.valid

/-- The target that an operation is about; it has an entry afterwards. -/
def subject? (access : Access) : Option Target :=
  match access.operation with
  | .prune | .mostRecent => none
  | .entry target | .shouldPresent target _ | .record target _ _ | .numberAndCount target => some target

/-- The operation records this update of the target: with the given time and value, or else with the
reading of the clock and the percentage of the target. -/
def Records (access : Access) (target : Target) (update : ProgressEntry) : Prop :=
  ∃ timestamp given value, access.operation = .record target timestamp given ∧
    valueOr access.percent target given = .ok value ∧
    update = ⟨some (timestamp.getD access.now), value⟩

/-- What an operation can make of the tracker. -/
inductive Makes (access : Access) (tracker : Tracker) : Tracker → Prop
  | swept (about : access.subject? = none) : Makes access tracker (tracker.kept access.valid)
  | seen {target : Target} (about : access.subject? = some target)
      (unwritten : ∀ update, ¬ access.Records target update) :
      Makes access tracker ((tracker.kept access.valid).enroll target)
  | recorded {target : Target} {update : ProgressEntry} (about : access.subject? = some target)
      (written : access.Records target update) :
      Makes access tracker (((tracker.kept access.valid).enroll target).write target update)

variable {access : Access} {tracker next : Tracker} {target other : Target} {update : ProgressEntry}

theorem Records.about (records : access.Records target update) : access.subject? = some target := by
  obtain ⟨timestamp, given, value, same, -⟩ := records
  rw [subject?, same]

theorem Records.unique {again : ProgressEntry} (records : access.Records target update)
    (also : access.Records target again) : update = again := by
  obtain ⟨timestamp, given, value, same, told, rfl⟩ := records
  obtain ⟨_, _, _, same', told', rfl⟩ := also
  rw [same] at same'
  cases same'
  rw [told] at told'
  cases told'
  rfl

theorem makes_of_perform (ran : access.perform tracker = .ok () next) :
    Answered access.valid tracker ∧ access.Makes tracker next := by
  obtain ⟨operation, valid, percent, now⟩ := access
  cases operation with
  | record target timestamp given =>
      obtain ⟨answered, value, told, rfl⟩ := record_eq_ok ran
      exact ⟨answered, .recorded rfl ⟨timestamp, given, value, rfl, told, rfl⟩⟩
  | prune =>
      obtain ⟨_, ran⟩ := discard_eq_ok.mp ran
      obtain ⟨answered, rfl⟩ := prune_eq_ok ran
      exact ⟨answered, .swept rfl⟩
  | mostRecent =>
      obtain ⟨_, ran⟩ := discard_eq_ok.mp ran
      obtain ⟨answered, rfl, -⟩ := mostRecent_eq_ok ran
      exact ⟨answered, .swept rfl⟩
  | entry target =>
      obtain ⟨_, ran⟩ := discard_eq_ok.mp ran
      obtain ⟨answered, rfl, -⟩ := entry_eq_ok ran
      exact ⟨answered, .seen rfl fun _ ⟨_, _, _, same, _⟩ => nomatch same⟩
  | shouldPresent target value =>
      obtain ⟨_, ran⟩ := discard_eq_ok.mp ran
      obtain ⟨answered, rfl, -⟩ := shouldPresent_eq_ok ran
      exact ⟨answered, .seen rfl fun _ ⟨_, _, _, same, _⟩ => nomatch same⟩
  | numberAndCount target =>
      obtain ⟨⟨_, _⟩, ran⟩ := discard_eq_ok.mp ran
      obtain ⟨answered, rfl, -⟩ := numberAndCount_eq_ok ran
      exact ⟨answered, .seen rfl fun _ ⟨_, _, _, same, _⟩ => nomatch same⟩

/-- How the tracked targets go on: the subject of the operation is one of them, or comes last. -/
inductive Grows (access : Access) (before : List Target) : List Target → Prop
  | known (known : ∀ target, access.subject? = some target → target ∈ before) :
      Grows access before before
  | added {target : Target} (about : access.subject? = some target) (new : target ∉ before) :
      Grows access before (before ++ [target])

theorem grows_enroll (about : access.subject? = some target) (tracker : Tracker) :
    access.Grows tracker.targets (tracker.enroll target).targets := by
  by_cases member : target ∈ tracker.targets
  · rw [enroll_of_mem member]
    refine .known fun other also => ?_
    cases about.symm.trans also
    exact member
  · rw [targets_enroll_of_not_mem member]
    exact .added about member

theorem Makes.grows (makes : access.Makes tracker next) :
    access.Grows (tracker.kept access.valid).targets next.targets := by
  cases makes with
  | swept about => exact .known fun target also => nomatch about.symm.trans also
  | seen about unwritten => exact grows_enroll about _
  | recorded about written =>
      rw [targets_write]
      exact grows_enroll about _

theorem Grows.mem_iff {before after : List Target} (grows : access.Grows before after) :
    target ∈ after ↔ target ∈ before ∨ access.subject? = some target := by
  cases grows with
  | known known => exact ⟨.inl, fun either => either.elim id (known target)⟩
  | added about new => simp [about, eq_comm]

theorem Grows.nodup {before after : List Target} (grows : access.Grows before after)
    (distinct : before.Nodup) : after.Nodup := by
  cases grows with
  | known known => exact distinct
  | @added subject about new =>
      refine List.nodup_append.mpr ⟨distinct, by simp, fun first member other last => ?_⟩
      rw [List.mem_singleton.mp last]
      rintro rfl
      exact new member

/-- An entry is the recorded update, or where nothing was recorded it is kept or new. -/
theorem Makes.entries (makes : access.Makes tracker next) (member : (target, update) ∈ next.entries) :
    access.Records target update ∨
      (∀ update, ¬ access.Records target update) ∧
        ((target, update) ∈ (tracker.kept access.valid).entries ∨
          target ∉ (tracker.kept access.valid).targets ∧ update = .fresh) := by
  cases makes with
  | swept about =>
      exact .inr ⟨fun _ records => (nomatch about.symm.trans records.about), .inl member⟩
  | @seen subject about unwritten =>
      refine .inr ⟨fun update records => ?_, mem_entries_enroll member⟩
      cases about.symm.trans records.about
      exact unwritten update records
  | @recorded subject written about records =>
      rcases mem_entries_write.mp member with ⟨rfl, rfl, -⟩ | ⟨apart, member⟩
      · exact .inl records
      · refine .inr ⟨fun update also => ?_, mem_entries_enroll member⟩
        cases about.symm.trans also.about
        exact apart rfl

/-- The entries of the other targets are as before, without those of invalid targets. -/
theorem Makes.others (makes : access.Makes tracker next) :
    next.entries.filter (fun entry => access.subject? ≠ some entry.1) =
      (tracker.kept access.valid).entries.filter fun entry => access.subject? ≠ some entry.1 := by
  cases makes with
  | swept about => rfl
  | seen about unwritten => rw [about, filter_enroll]
  | recorded about written => rw [about, filter_write, filter_enroll]

end Access

section Standing

/-- At position `n` of the history something happened to a target, and since then no operation found
the target invalid. -/
def Stands (history : List Access) (target : Target) (happened : Access → Prop) (n : Nat) : Prop :=
  ∃ access, history[n]? = some access ∧ happened access ∧
    ∀ later ∈ history.drop (n + 1), later.valid target ≠ .ok false

variable {history : List Access} {access : Access} {target : Target} {happened : Access → Prop}
  {n : Nat}

theorem Stands.lt (stands : Stands history target happened n) : n < history.length := by
  obtain ⟨access, found, -⟩ := stands
  exact (List.getElem?_eq_some_iff.mp found).1

theorem stands_append :
    Stands (history ++ [access]) target happened n ↔
      (Stands history target happened n ∧ access.valid target ≠ .ok false) ∨
        (n = history.length ∧ happened access) := by
  rcases Nat.lt_trichotomy n history.length with before | rfl | behind
  · have later (next : Access) : next ∈ (history ++ [access]).drop (n + 1) ↔
        next ∈ history.drop (n + 1) ∨ next = access := by
      rw [List.drop_append_of_le_length before, List.mem_append, List.mem_singleton]
    simp only [Stands, List.getElem?_append_left before, later]
    constructor
    · rintro ⟨first, found, here, lasting⟩
      exact .inl ⟨⟨first, found, here, fun next member => lasting next (.inl member)⟩,
        lasting access (.inr rfl)⟩
    · rintro (⟨⟨first, found, here, lasting⟩, still⟩ | ⟨last, -⟩)
      · refine ⟨first, found, here, fun next => ?_⟩
        rintro (member | rfl)
        · exact lasting next member
        · exact still
      · exact absurd last (Nat.ne_of_lt before)
  · constructor
    · rintro ⟨last, found, here, -⟩
      rw [List.getElem?_concat_length] at found
      cases found
      exact .inr ⟨rfl, here⟩
    · rintro (⟨earlier, -⟩ | ⟨-, here⟩)
      · exact absurd earlier.lt (Nat.lt_irrefl _)
      · refine ⟨access, List.getElem?_concat_length, here, fun next member => ?_⟩
        rw [List.drop_eq_nil_of_le (by simp)] at member
        cases member
  · constructor
    · intro stands
      have bound := stands.lt
      rw [List.length_append, List.length_singleton] at bound
      omega
    · rintro (⟨earlier, -⟩ | ⟨last, -⟩)
      · exact absurd earlier.lt (Nat.lt_asymm behind)
      · omega

end Standing

/-- The tracked entry that a history dictates for a target: the last update recorded that still stands,
or the empty one if there is none. -/
def Holds (history : List Access) (target : Target) (last : ProgressEntry) : Prop :=
  (∃ n, Stands history target (·.Records target last) n ∧
      ∀ m update, Stands history target (·.Records target update) m → m ≤ n) ∨
    last = .fresh ∧ ∀ n update, ¬ Stands history target (·.Records target update) n

/-- The creation of an entry at position `n` of the history stands. -/
def Created (history : List Access) (target : Target) (n : Nat) : Prop :=
  Stands history target (·.subject? = some target) n

/-- The tracker is as the history dictates. -/
structure Dictates (history : List Access) (tracker : Tracker) : Prop where
  distinct : tracker.targets.Nodup
  tracked : ∀ target, target ∈ tracker.targets ↔ ∃ n, Created history target n
  ordered : tracker.targets.Pairwise fun first second =>
    ∃ n, Created history first n ∧ ∀ m, Created history second m → n < m
  holds : ∀ target last, (target, last) ∈ tracker.entries → Holds history target last
  valid : ∀ access, history.getLast? = some access → ∀ target ∈ tracker.targets,
    access.subject? ≠ some target → access.valid target = .ok true

theorem dictates_nil (settings : ProgressSettings) : Dictates [] (.empty settings) where
  distinct := List.nodup_nil
  tracked target := by simp [targets, empty, Created, Stands]
  ordered := .nil
  holds _ _ member := nomatch member
  valid _ last := nomatch last

section Step

variable {history : List Access} {access : Access} {tracker next : Tracker} {target : Target}

theorem mem_targets_kept : target ∈ (tracker.kept access.valid).targets ↔
    target ∈ tracker.targets ∧ access.valid target = .ok true := by
  rw [targets_kept, List.mem_filter, isAlive_iff]

theorem Answered.alive (answered : Answered access.valid tracker) (member : target ∈ tracker.targets)
    (living : access.valid target ≠ .ok false) : access.valid target = .ok true := by
  obtain ⟨alive, told⟩ := answered target member
  cases alive with
  | true => exact told
  | false => exact absurd told living

theorem ne_dead (alive : access.valid target = .ok true) : access.valid target ≠ .ok false := by
  rw [alive]
  simp

theorem created_append {n : Nat} : Created (history ++ [access]) target n ↔
    (Created history target n ∧ access.valid target ≠ .ok false) ∨
      (n = history.length ∧ access.subject? = some target) :=
  stands_append

variable (dictates : Dictates history tracker) (answered : Answered access.valid tracker)
  (makes : access.Makes tracker next)
include dictates

theorem Dictates.nodup_kept : (tracker.kept access.valid).targets.Nodup := by
  rw [targets_kept]
  exact dictates.distinct.filter _

include answered

theorem Dictates.mem_kept_iff : target ∈ (tracker.kept access.valid).targets ↔
    ∃ n, Created history target n ∧ access.valid target ≠ .ok false := by
  rw [mem_targets_kept]
  constructor
  · rintro ⟨member, alive⟩
    obtain ⟨n, created⟩ := (dictates.tracked target).mp member
    exact ⟨n, created, ne_dead alive⟩
  · rintro ⟨n, created, living⟩
    have member := (dictates.tracked target).mpr ⟨n, created⟩
    exact ⟨member, answered.alive member living⟩

theorem Dictates.tracked_step {after : List Target}
    (grows : access.Grows (tracker.kept access.valid).targets after) :
    target ∈ after ↔ ∃ n, Created (history ++ [access]) target n := by
  rw [grows.mem_iff, dictates.mem_kept_iff answered]
  simp only [created_append]
  constructor
  · rintro (⟨n, still⟩ | about)
    · exact ⟨n, .inl still⟩
    · exact ⟨history.length, .inr ⟨rfl, about⟩⟩
  · rintro ⟨n, still | ⟨-, about⟩⟩
    · exact .inl ⟨n, still⟩
    · exact .inr about

/-- The kept targets were created in their order, and before a new one. -/
theorem Dictates.ordered_step {after : List Target}
    (grows : access.Grows (tracker.kept access.valid).targets after) :
    after.Pairwise fun first second => ∃ n, Created (history ++ [access]) first n ∧
      ∀ m, Created (history ++ [access]) second m → n < m := by
  have kept : (tracker.kept access.valid).targets.Pairwise fun first second =>
      ∃ n, Created (history ++ [access]) first n ∧
        ∀ m, Created (history ++ [access]) second m → n < m := by
    rw [targets_kept]
    refine (dictates.ordered.filter _).imp_of_mem fun {first second} member _ earlier => ?_
    obtain ⟨n, created, before⟩ := earlier
    have alive : access.valid first = .ok true := isAlive_iff.mp (List.mem_filter.mp member).2
    refine ⟨n, created_append.mpr (.inl ⟨created, ne_dead alive⟩), fun m later => ?_⟩
    rcases created_append.mp later with ⟨old, -⟩ | ⟨rfl, -⟩
    · exact before m old
    · exact created.lt
  cases grows with
  | known known => exact kept
  | @added subject about new =>
      refine List.pairwise_append.mpr ⟨kept, List.pairwise_singleton _ _, fun first member second last => ?_⟩
      cases List.mem_singleton.mp last
      obtain ⟨n, created, living⟩ := (dictates.mem_kept_iff answered).mp member
      refine ⟨n, created_append.mpr (.inl ⟨created, living⟩), fun m later => ?_⟩
      rcases created_append.mp later with ⟨old, still⟩ | ⟨rfl, -⟩
      · exact absurd ((dictates.mem_kept_iff answered).mpr ⟨m, old, still⟩) new
      · exact created.lt

include makes

theorem Dictates.holds_step {last : ProgressEntry} (member : (target, last) ∈ next.entries) :
    Holds (history ++ [access]) target last := by
  rcases makes.entries member with records | ⟨unwritten, kept | ⟨new, rfl⟩⟩
  · refine .inl ⟨history.length, stands_append.mpr (.inr ⟨rfl, records⟩), fun m update stands => ?_⟩
    have bound := stands.lt
    rw [List.length_append, List.length_singleton] at bound
    omega
  · obtain ⟨before, alive⟩ := mem_entries_kept.mp kept
    rcases dictates.holds target last before with ⟨n, stands, latest⟩ | ⟨rfl, none⟩
    · refine .inl ⟨n, stands_append.mpr (.inl ⟨stands, ne_dead alive⟩), fun m update later => ?_⟩
      rcases stands_append.mp later with ⟨old, -⟩ | ⟨-, records⟩
      · exact latest m update old
      · exact absurd records (unwritten update)
    · refine .inr ⟨rfl, fun n update later => ?_⟩
      rcases stands_append.mp later with ⟨old, -⟩ | ⟨-, records⟩
      · exact none n update old
      · exact unwritten update records
  · refine .inr ⟨rfl, fun n update later => ?_⟩
    rcases stands_append.mp later with ⟨⟨first, found, records, lasting⟩, living⟩ | ⟨-, records⟩
    · exact new ((dictates.mem_kept_iff answered).mpr
        ⟨n, ⟨first, found, records.about, lasting⟩, living⟩)
    · exact unwritten update records

/-- One more operation. -/
theorem Dictates.step : Dictates (history ++ [access]) next where
  distinct := makes.grows.nodup dictates.nodup_kept
  tracked target := dictates.tracked_step answered makes.grows
  ordered := dictates.ordered_step answered makes.grows
  holds target last member := dictates.holds_step answered makes member
  valid last isLast target member other := by
    rw [List.getLast?_concat] at isLast
    cases isLast
    rcases makes.grows.mem_iff.mp member with kept | about
    · exact (mem_targets_kept.mp kept).2
    · exact absurd about other

end Step

/-- One operation after another, as long as all queries are answered. -/
def follow (history : List Access) : Action Tracker Unit := forM history Access.perform

theorem dictates_of_follow {settings : ProgressSettings} {history : List Access} {tracker : Tracker}
    (ran : follow history (.empty settings) = .ok () tracker) : Dictates history tracker := by
  induction history using List.reverseRecOn generalizing tracker with
  | nil =>
      cases ran
      exact dictates_nil settings
  | append_singleton history access ih =>
      rw [follow, List.forM_append] at ran
      obtain ⟨_, between, before, ran⟩ := bind_eq_ok.mp ran
      obtain ⟨_, ran⟩ := discard_eq_ok.mp ran
      obtain ⟨answered, makes⟩ := Access.makes_of_perform ran
      exact (ih before).step answered makes

/-- The number of a tracked target is its place among the targets. -/
theorem getElem?_position {tracker : Tracker} {target : Target} (member : target ∈ tracker.targets) :
    tracker.targets[tracker.position target]? = some target := by
  obtain ⟨last, inside⟩ := mem_targets.mp member
  have bound : tracker.position target < tracker.entries.length :=
    List.findIdx_lt_length_of_exists ⟨_, inside, decide_eq_true rfl⟩
  have here : decide ((tracker.entries[tracker.position target]).1 = target) :=
    List.findIdx_getElem (w := bound)
  rw [targets, List.getElem?_map, List.getElem?_eq_getElem bound, Option.map_some,
    of_decide_eq_true here]

/-- After every sequence of operations the tracker is as the history dictates. From there the number of
a target is its rank among the tracked ones, and an operation leaves the entries of all targets but its
own as they were, in the same order, without those of targets that it finds invalid. -/
theorem history_dictates {settings : ProgressSettings} {history : List Access} {tracker : Tracker}
    (ran : follow history (.empty settings) = .ok () tracker) :
    Dictates history tracker ∧
      (∀ (access : Access) (target : Target) (number count : Nat) (next : Tracker),
        access.operation = .numberAndCount target →
        numberAndCount access.valid target tracker = .ok (number, count) next →
        Dictates (history ++ [access]) next ∧ 0 < number ∧
          next.targets[number - 1]? = some target ∧ count = next.targets.length) ∧
      ∀ (access : Access) (next : Tracker), access.perform tracker = .ok () next →
        next.entries.filter (fun entry => access.subject? ≠ some entry.1) =
          tracker.entries.filter fun entry =>
            access.subject? ≠ some entry.1 && isAlive access.valid entry.1 := by
  have dictates := dictates_of_follow ran
  refine ⟨dictates, fun access target number count next is counted => ?_, fun access next ran => ?_⟩
  · have performed : access.perform tracker = .ok () next := by
      simp only [Access.perform, is]
      rw [bind_of_ok counted]
      rfl
    obtain ⟨answered, makes⟩ := Access.makes_of_perform performed
    have about : access.subject? = some target := by rw [Access.subject?, is]
    obtain ⟨-, -, rfl, rfl⟩ := numberAndCount_eq_ok counted
    refine ⟨dictates.step answered makes, Nat.succ_pos _, ?_, (List.length_map _).symm⟩
    exact getElem?_position (makes.grows.mem_iff.mpr (.inr about))
  · obtain ⟨-, makes⟩ := Access.makes_of_perform ran
    rw [makes.others, kept, List.filter_filter]

/-- The first of two indicators is found invalid once, and is then seen anew while it still is. -/
def revival : List Access :=
  let all : Target → Query Bool := fun _ => .ok true
  let butFirst : Target → Query Bool := fun target => .ok (target ≠ 1)
  let percent : Target → Query (Option UInt32) := fun _ => .ok (some 20)
  [⟨.record 1 (some 5) (some 10), all, percent, 6⟩, ⟨.record 2 none none, all, percent, 7⟩,
    ⟨.mostRecent, butFirst, percent, 8⟩, ⟨.shouldPresent 1 10, butFirst, percent, 9⟩]

def afterRevival : Tracker := ⟨[(2, ⟨some 7, some 20⟩), (1, .fresh)], .standard⟩

theorem history_dictates_revival :
    follow revival (.empty .standard) = .ok () afterRevival ∧ Dictates revival afterRevival ∧
      ∃ next : Tracker, numberAndCount (fun _ => .ok true) 1 afterRevival = .ok (2, 2) next ∧
        next.targets[1]? = some 1 ∧ 2 = next.targets.length := by
  have ran : follow revival (.empty .standard) = .ok () afterRevival := by rfl
  obtain ⟨dictates, numbered, -⟩ := history_dictates ran
  have counted : numberAndCount (fun _ => .ok true) 1 afterRevival = .ok (2, 2) afterRevival := by
    rfl
  obtain ⟨-, -, placed, total⟩ :=
    numbered ⟨.numberAndCount 1, fun _ => .ok true, fun _ => .ok none, 10⟩ 1 2 2 _ rfl counted
  exact ⟨ran, dictates, afterRevival, counted, placed, total⟩

end Narration.Tracker
