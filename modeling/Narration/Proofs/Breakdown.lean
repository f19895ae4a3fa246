import Narration.Proofs.History
/-! Operations of the tracker that break off. An operation breaks off at the first query that breaks
down, and by then it has done nothing but drop entries that it found invalid; so no sequence of
operations, broken or not, makes the tracker hold two entries of one target. -/
namespace Narration.Tracker

variable {valid : Target → Query Bool} {tracker next : Tracker} {target : Target} {message : String}
  {halt : Halt}

section Operations

variable {now : UInt64} {percent : Target → Query (Option UInt32)}

theorem entry_eq_error_iff :
    Tracker.entry valid target tracker = .error halt next ↔ prune valid tracker = .error halt next :=
  bind_eq_error_of_total fun _ _ => ⟨_, _, rfl⟩

theorem shouldPresent_eq_error_iff {value : UInt32} :
    shouldPresent valid now target value tracker = .error halt next ↔
      prune valid tracker = .error halt next :=
  (bind_eq_error_of_total fun _ _ => ⟨_, _, rfl⟩).trans entry_eq_error_iff

theorem numberAndCount_eq_error_iff :
    numberAndCount valid target tracker = .error halt next ↔ prune valid tracker = .error halt next :=
  bind_eq_error_of_total fun _ _ => ⟨_, _, rfl⟩

theorem mostRecent_eq_error_iff :
    mostRecent valid tracker = .error halt next ↔ prune valid tracker = .error halt next :=
  bind_eq_error_of_total fun _ _ => ⟨_, _, rfl⟩

theorem record_value_eq_error_iff (percent : Target → Query (Option UInt32))
    {timestamp : Option UInt64} {value : UInt32} :
    record valid percent now target timestamp (some value) tracker = .error halt next ↔
      prune valid tracker = .error halt next :=
  bind_eq_error_of_total fun _ _ => ⟨_, _, rfl⟩

theorem record_default_eq_error_iff {timestamp : Option UInt64} :
    record valid percent now target timestamp none tracker = .error halt next ↔
      prune valid tracker = .error halt next ∨ Answered valid tracker ∧
        ∃ message, halt = .fault message ∧ percent target = .error message ∧
          next = tracker.kept valid := by
  constructor
  · intro broken
    rcases bind_eq_error.mp broken with broken | ⟨count, between, pruned, broken⟩
    · exact .inl broken
    · have asked := (bind_eq_error_of_total fun _ _ => ⟨_, _, rfl⟩).mp broken
      obtain ⟨message, rfl, untold, rfl⟩ := answer_eq_error_iff.mp asked
      obtain ⟨answered, rfl⟩ := prune_eq_ok pruned
      exact .inr ⟨answered, message, rfl, untold, rfl⟩
  · rintro (broken | ⟨answered, message, rfl, untold, rfl⟩)
    · exact bind_of_error broken _
    · obtain ⟨count, pruned⟩ := prune_of_answered answered
      refine (bind_of_ok pruned _).trans (bind_of_error ?_ _)
      exact answer_eq_error_iff.mpr ⟨message, rfl, untold, rfl⟩

end Operations

namespace Access

variable {access : Access}

/-- How an operation breaks off, and what it leaves: in the sweep, where the validity of an entry cannot
be told, or after it, where the percentage that is recorded by default cannot. -/
inductive BreaksOff (access : Access) (tracker : Tracker) (message : String) : Tracker → Prop
  | sweeping {checked rest : List (Target × ProgressEntry)} {entry : Target × ProgressEntry}
      (entries : tracker.entries = checked ++ entry :: rest)
      (answered : ∀ entry ∈ checked, ∃ alive, access.valid entry.1 = .ok alive)
      (untold : access.valid entry.1 = .error message) :
      BreaksOff access tracker message { tracker with
        entries := checked.filter (fun entry => isAlive access.valid entry.1) ++ entry :: rest }
  | recording {target : Target} {timestamp : Option UInt64}
      (is : access.operation = .record target timestamp none)
      (answered : Answered access.valid tracker) (untold : access.percent target = .error message) :
      BreaksOff access tracker message (tracker.kept access.valid)

theorem breaksOff_of_prune (broken : prune access.valid tracker = .error halt next) :
    ∃ message, halt = .fault message ∧ access.BreaksOff tracker message next := by
  obtain ⟨message, rfl, left, swept, rfl⟩ := prune_eq_error_iff.mp broken
  obtain ⟨checked, entry, rest, entries, answered, untold, rfl⟩ := sweep_eq_error_iff.mp swept
  exact ⟨message, rfl, .sweeping entries answered untold⟩

/-- An operation that reads no percentage breaks off in the sweep only. -/
theorem breaksOff_iff_prune
    (other : ∀ target timestamp, access.operation ≠ .record target timestamp none) :
    (∃ message, halt = .fault message ∧ access.BreaksOff tracker message next) ↔
      prune access.valid tracker = .error halt next := by
  constructor
  · rintro ⟨message, rfl, breaks⟩
    cases breaks with
    | sweeping entries answered untold => exact prune_of_broken entries answered untold
    | recording is answered untold => exact absurd is (other _ _)
  · exact breaksOff_of_prune

theorem breaksOff_iff_record {timestamp : Option UInt64}
    (is : access.operation = .record target timestamp none) :
    (∃ message, halt = .fault message ∧ access.BreaksOff tracker message next) ↔
      prune access.valid tracker = .error halt next ∨ Answered access.valid tracker ∧
        ∃ message, halt = .fault message ∧ access.percent target = .error message ∧
          next = tracker.kept access.valid := by
  constructor
  · rintro ⟨message, rfl, breaks⟩
    cases breaks with
    | sweeping entries answered untold => exact .inl (prune_of_broken entries answered untold)
    | recording also answered untold =>
        rw [is] at also
        cases also
        exact .inr ⟨answered, message, rfl, untold, rfl⟩
  · rintro (broken | ⟨answered, message, rfl, untold, rfl⟩)
    · exact breaksOff_of_prune broken
    · exact ⟨message, rfl, .recording is answered untold⟩

/-- An operation fails exactly where it breaks off. -/
theorem perform_eq_error_iff :
    access.perform tracker = .error halt next ↔
      ∃ message, halt = .fault message ∧ access.BreaksOff tracker message next := by
  obtain ⟨operation, valid, percent, now⟩ := access
  cases operation with
  | record target timestamp value =>
      cases value with
      | some value =>
          exact (record_value_eq_error_iff percent).trans
            (breaksOff_iff_prune (by nofun)).symm
      | none => exact record_default_eq_error_iff.trans (breaksOff_iff_record rfl).symm
  | prune => exact discard_eq_error.trans (breaksOff_iff_prune (by nofun)).symm
  | entry target =>
      exact (discard_eq_error.trans entry_eq_error_iff).trans
        (breaksOff_iff_prune (by nofun)).symm
  | shouldPresent target value =>
      exact (discard_eq_error.trans shouldPresent_eq_error_iff).trans
        (breaksOff_iff_prune (by nofun)).symm
  | numberAndCount target =>
      exact (discard_eq_error.trans numberAndCount_eq_error_iff).trans
        (breaksOff_iff_prune (by nofun)).symm
  | mostRecent =>
      exact (discard_eq_error.trans mostRecent_eq_error_iff).trans
        (breaksOff_iff_prune (by nofun)).symm

theorem BreaksOff.settings (breaks : access.BreaksOff tracker message next) :
    next.settings = tracker.settings := by
  cases breaks <;> rfl

theorem BreaksOff.sublist (breaks : access.BreaksOff tracker message next) :
    next.entries.Sublist tracker.entries := by
  cases breaks with
  | sweeping entries answered untold =>
      rw [entries]
      exact (List.filter_sublist).append (.refl _)
  | recording is answered untold => exact List.filter_sublist

theorem BreaksOff.dropped (breaks : access.BreaksOff tracker message next)
    {entry : Target × ProgressEntry} (member : entry ∈ tracker.entries)
    (lost : entry ∉ next.entries) : access.valid entry.1 = .ok false := by
  have dead {checked : List (Target × ProgressEntry)} (inside : entry ∈ checked)
      (answered : ∃ alive, access.valid entry.1 = .ok alive)
      (filtered : entry ∉ checked.filter fun entry => isAlive access.valid entry.1) :
      access.valid entry.1 = .ok false := by
    obtain ⟨alive, told⟩ := answered
    cases alive with
    | false => exact told
    | true => exact absurd (List.mem_filter.mpr ⟨inside, isAlive_iff.mpr told⟩) filtered
  cases breaks with
  | sweeping entries answered untold =>
      rw [entries, List.mem_append] at member
      rw [List.mem_append, not_or] at lost
      rcases member with inside | unchecked
      · exact dead inside (answered entry inside) lost.1
      · exact absurd unchecked lost.2
  | recording is answered untold =>
      exact dead member (answered entry.1 (List.mem_map_of_mem member)) lost

theorem BreaksOff.nodup (breaks : access.BreaksOff tracker message next)
    (distinct : tracker.targets.Nodup) : next.targets.Nodup :=
  distinct.sublist (breaks.sublist.map Prod.fst)

/-- An operation fails exactly where a query breaks it off. What it leaves are the old entries in their
order, without those that it had found invalid by then. -/
theorem broken_off (access : Access) (tracker : Tracker) (distinct : tracker.targets.Nodup) :
    (∀ halt next, access.perform tracker = .error halt next ↔
      ∃ message, halt = .fault message ∧ access.BreaksOff tracker message next) ∧
    ∀ message next, access.BreaksOff tracker message next →
      next.targets.Nodup ∧ next.settings = tracker.settings ∧
        next.entries.Sublist tracker.entries ∧
          ∀ entry ∈ tracker.entries, entry ∉ next.entries → access.valid entry.1 = .ok false := by
  refine ⟨fun halt next => perform_eq_error_iff, fun message next breaks => ?_⟩
  exact ⟨breaks.nodup distinct, breaks.settings, breaks.sublist, fun entry => breaks.dropped⟩

/-- The third of four indicators breaks the sweep off. The second is gone by then; the fourth, which is
invalid too, is not. -/
theorem broken_off_third :
    let access : Access := ⟨.record 1 none none,
      fun target => if target = 3 then .error "gone" else .ok (target = 1), fun _ => .ok none, 8⟩
    let tracker : Tracker :=
      ⟨[(1, ⟨some 5, some 10⟩), (2, .fresh), (3, ⟨some 6, none⟩), (4, ⟨some 7, some 90⟩)], .standard⟩
    let next : Tracker :=
      ⟨[(1, ⟨some 5, some 10⟩), (3, ⟨some 6, none⟩), (4, ⟨some 7, some 90⟩)], .standard⟩
    tracker.targets.Nodup ∧ access.perform tracker = .error (.fault "gone") next ∧
      access.BreaksOff tracker "gone" next ∧ next.targets.Nodup := by
  intro access tracker next
  have distinct : tracker.targets.Nodup := by decide
  have broken : access.perform tracker = .error (.fault "gone") next := by rfl
  obtain ⟨fails, leaves⟩ := broken_off access tracker distinct
  obtain ⟨message, same, breaks⟩ := (fails _ _).mp broken
  cases same
  exact ⟨distinct, broken, breaks, (leaves _ _ breaks).1⟩

end Access

section Runs

/-- The step: an operation leaves distinct targets, however it ends. -/
theorem nodup_perform (access : Access) (distinct : tracker.targets.Nodup) :
    (finalState (access.perform tracker)).targets.Nodup := by
  cases ran : access.perform tracker with
  | ok done next =>
      have grows := (Access.makes_of_perform ran).2.grows
      rw [targets_kept] at grows
      exact grows.nodup (distinct.filter _)
  | error halt next =>
      obtain ⟨message, -, breaks⟩ := Access.perform_eq_error_iff.mp ran
      exact breaks.nodup distinct

/-- One operation after another, whether or not they break off. -/
def attempt (history : List Access) (tracker : Tracker) : Tracker :=
  history.foldl (fun tracker access => finalState (access.perform tracker)) tracker

/-- The run: a target has at most one entry, whatever breaks down. -/
theorem nodup_attempt (history : List Access) (distinct : tracker.targets.Nodup) :
    (attempt history tracker).targets.Nodup := by
  induction history generalizing tracker with
  | nil => exact distinct
  | cons access history ih => exact ih (nodup_perform access distinct)

end Runs
end Narration.Tracker
