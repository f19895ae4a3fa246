import Narration.Proofs.Frame
/-! What each operation makes of the tracker: it keeps the entries of valid targets, and then adds or
overwrites the entry of its own target. -/
namespace Narration.Tracker

def targets (tracker : Tracker) : List Target := tracker.entries.map Prod.fst

/-- The last presented update of a target, which is none for a target that is not tracked. -/
def recorded (tracker : Tracker) (target : Target) : ProgressEntry :=
  (tracker.find? target).getD .fresh

def isAlive (valid : Target → Query Bool) (target : Target) : Bool :=
  match valid target with
  | .ok true => true
  | .ok false | .error _ => false

/-- The tracker without the entries of targets that are not valid. -/
def kept (valid : Target → Query Bool) (tracker : Tracker) : Tracker :=
  { tracker with entries := tracker.entries.filter fun entry => isAlive valid entry.1 }

/-- Whether the validity of every tracked target can be told. -/
def Answered (valid : Target → Query Bool) (tracker : Tracker) : Prop :=
  ∀ target ∈ tracker.targets, ∃ alive, valid target = .ok alive

variable {tracker next : Tracker} {valid : Target → Query Bool} {target other : Target}
  {last value : ProgressEntry} {count : Nat}

theorem isAlive_iff : isAlive valid target ↔ valid target = .ok true := by
  unfold isAlive
  split <;> simp_all

section Entries

theorem mem_targets : target ∈ tracker.targets ↔ ∃ last, (target, last) ∈ tracker.entries := by
  simp [targets]

theorem isSome_find? : (tracker.find? target).isSome ↔ target ∈ tracker.targets := by
  simp [find?, targets]

theorem enroll_of_mem (member : target ∈ tracker.targets) : tracker.enroll target = tracker :=
  if_pos (isSome_find?.mpr member)

theorem entries_enroll_of_not_mem (absent : target ∉ tracker.targets) :
    (tracker.enroll target).entries = tracker.entries ++ [(target, .fresh)] := by
  rw [enroll, if_neg (fun found => absent (isSome_find?.mp found))]

theorem targets_enroll_of_not_mem (absent : target ∉ tracker.targets) :
    (tracker.enroll target).targets = tracker.targets ++ [target] := by
  rw [targets, entries_enroll_of_not_mem absent, List.map_append]
  rfl

theorem mem_entries_enroll (member : (other, last) ∈ (tracker.enroll target).entries) :
    (other, last) ∈ tracker.entries ∨ other ∉ tracker.targets ∧ last = .fresh := by
  by_cases known : target ∈ tracker.targets
  · rw [enroll_of_mem known] at member
    exact .inl member
  · rw [entries_enroll_of_not_mem known, List.mem_append, List.mem_singleton] at member
    rcases member with before | new
    · exact .inl before
    · cases new
      exact .inr ⟨known, rfl⟩

theorem filter_enroll (tracker : Tracker) (target : Target) :
    (tracker.enroll target).entries.filter (fun entry => some target ≠ some entry.1) =
      tracker.entries.filter fun entry => some target ≠ some entry.1 := by
  by_cases known : target ∈ tracker.targets
  · rw [enroll_of_mem known]
  · simp [entries_enroll_of_not_mem known]

theorem targets_write : (tracker.write target value).targets = tracker.targets := by
  rw [targets, targets, write, List.map_map]
  refine List.map_congr_left fun entry _ => ?_
  simp only [Function.comp_apply]
  split
  · rename_i same
    exact same.symm
  · rfl

theorem mem_entries_write :
    (other, last) ∈ (tracker.write target value).entries ↔
      (other = target ∧ last = value ∧ target ∈ tracker.targets) ∨
        (other ≠ target ∧ (other, last) ∈ tracker.entries) := by
  simp only [write, List.mem_map, mem_targets]
  constructor
  · rintro ⟨⟨found, old⟩, member, changed⟩
    by_cases same : found = target
    · rw [if_pos same] at changed
      cases changed
      subst same
      exact .inl ⟨rfl, rfl, old, member⟩
    · rw [if_neg same] at changed
      cases changed
      exact .inr ⟨same, member⟩
  · rintro (⟨rfl, rfl, old, member⟩ | ⟨apart, member⟩)
    · exact ⟨(other, old), member, if_pos rfl⟩
    · exact ⟨(other, last), member, if_neg apart⟩

theorem filter_write (tracker : Tracker) (target : Target) (value : ProgressEntry) :
    (tracker.write target value).entries.filter (fun entry => some target ≠ some entry.1) =
      tracker.entries.filter fun entry => some target ≠ some entry.1 := by
  rw [write]
  induction tracker.entries with
  | nil => rfl
  | cons entry rest ih =>
      rw [List.map_cons, List.filter_cons, List.filter_cons, ih]
      by_cases same : entry.1 = target
      · simp [same]
      · rw [if_neg same]

theorem mem_entries_kept :
    (target, last) ∈ (tracker.kept valid).entries ↔
      (target, last) ∈ tracker.entries ∧ valid target = .ok true := by
  rw [kept, List.mem_filter, isAlive_iff]

theorem targets_kept : (tracker.kept valid).targets = tracker.targets.filter (isAlive valid) := by
  rw [targets, targets, kept, List.filter_map]
  rfl

end Entries

section Sweeps

variable {checked entries left : List (Target × ProgressEntry)} {entry : Target × ProgressEntry}
  {message : String} {halt : Halt}

/-- The sweep drops the invalid ones of the entries whose validity can be told, and goes on. -/
theorem sweep_append (answered : ∀ entry ∈ checked, ∃ alive, valid entry.1 = .ok alive)
    (unchecked : List (Target × ProgressEntry)) :
    ∃ dropped, sweep valid (checked ++ unchecked) =
      ((sweep valid unchecked).1.map (· + dropped),
        checked.filter (fun entry => isAlive valid entry.1) ++ (sweep valid unchecked).2) := by
  induction checked with
  | nil =>
      refine ⟨0, ?_⟩
      rw [List.nil_append, List.filter_nil, List.nil_append]
      cases sweep valid unchecked with
      | mk counted left => cases counted <;> rfl
  | cons entry checked ih =>
      obtain ⟨⟨alive, told⟩, others⟩ := List.forall_mem_cons.mp answered
      obtain ⟨dropped, swept⟩ := ih others
      cases alive with
      | true =>
          refine ⟨dropped, ?_⟩
          have living : isAlive valid entry.1 := isAlive_iff.mpr told
          simp only [List.cons_append, sweep, told, swept, List.filter_cons, if_pos living]
      | false =>
          refine ⟨dropped + 1, ?_⟩
          have dead : ¬ isAlive valid entry.1 := by
            rw [isAlive_iff, told]
            simp
          simp only [List.cons_append, sweep, told, swept, List.filter_cons, if_neg dead]
          cases (sweep valid unchecked).1 <;> rfl

theorem sweep_of_answered (answered : ∀ entry ∈ entries, ∃ alive, valid entry.1 = .ok alive) :
    ∃ dropped, sweep valid entries =
      (.ok dropped, entries.filter fun entry => isAlive valid entry.1) := by
  obtain ⟨dropped, swept⟩ := sweep_append answered []
  rw [List.append_nil] at swept
  refine ⟨0 + dropped, ?_⟩
  rw [swept, sweep, List.append_nil]
  rfl

/-- Where the validity of an entry cannot be told, the sweep keeps it and all behind it. -/
theorem sweep_of_broken (answered : ∀ entry ∈ checked, ∃ alive, valid entry.1 = .ok alive)
    (untold : valid entry.1 = .error message) (rest : List (Target × ProgressEntry)) :
    sweep valid (checked ++ entry :: rest) = (.error message,
      checked.filter (fun entry => isAlive valid entry.1) ++ entry :: rest) := by
  obtain ⟨dropped, swept⟩ := sweep_append answered (entry :: rest)
  rw [swept, sweep, untold]
  rfl

/-- The validity of all entries can be told, or there is a first one of which it cannot. -/
theorem answered_or_first_broken (valid : Target → Query Bool)
    (entries : List (Target × ProgressEntry)) :
    (∀ entry ∈ entries, ∃ alive, valid entry.1 = .ok alive) ∨
      ∃ checked entry rest message, entries = checked ++ entry :: rest ∧
        (∀ entry ∈ checked, ∃ alive, valid entry.1 = .ok alive) ∧ valid entry.1 = .error message := by
  induction entries with
  | nil => exact .inl fun _ member => nomatch member
  | cons entry rest ih =>
      cases told : valid entry.1 with
      | error message => exact .inr ⟨[], entry, rest, message, rfl, List.forall_mem_nil _, told⟩
      | ok alive =>
          rcases ih with answered | ⟨checked, broken, later, message, rfl, answered, breaks⟩
          · exact .inl (List.forall_mem_cons.mpr ⟨⟨alive, told⟩, answered⟩)
          · exact .inr ⟨entry :: checked, broken, later, message, rfl,
              List.forall_mem_cons.mpr ⟨⟨alive, told⟩, answered⟩, breaks⟩

/-- Where validity can be told throughout, the sweep drops exactly the invalid targets. -/
theorem sweep_eq_ok (ran : sweep valid entries = (.ok count, left)) :
    (∀ entry ∈ entries, ∃ alive, valid entry.1 = .ok alive) ∧
      left = entries.filter fun entry => isAlive valid entry.1 := by
  rcases answered_or_first_broken valid entries with
    answered | ⟨checked, entry, rest, message, rfl, answered, untold⟩
  · obtain ⟨dropped, swept⟩ := sweep_of_answered answered
    rw [swept] at ran
    cases ran
    exact ⟨answered, rfl⟩
  · rw [sweep_of_broken answered untold] at ran
    cases ran

theorem sweep_eq_error_iff :
    sweep valid entries = (.error message, left) ↔
      ∃ checked entry rest, entries = checked ++ entry :: rest ∧
        (∀ entry ∈ checked, ∃ alive, valid entry.1 = .ok alive) ∧ valid entry.1 = .error message ∧
        left = checked.filter (fun entry => isAlive valid entry.1) ++ entry :: rest := by
  constructor
  · intro broken
    rcases answered_or_first_broken valid entries with
      answered | ⟨checked, entry, rest, other, rfl, answered, untold⟩
    · obtain ⟨dropped, swept⟩ := sweep_of_answered answered
      rw [swept] at broken
      cases broken
    · rw [sweep_of_broken answered untold] at broken
      cases broken
      exact ⟨checked, entry, rest, rfl, answered, untold, rfl⟩
  · rintro ⟨checked, entry, rest, rfl, answered, untold, rfl⟩
    exact sweep_of_broken answered untold rest

/-- A sweep drops no valid entry, even if it breaks down. -/
theorem filter_sweep (valid : Target → Query Bool) (entries : List (Target × ProgressEntry)) :
    (sweep valid entries).2.filter (fun entry => isAlive valid entry.1) =
      entries.filter fun entry => isAlive valid entry.1 := by
  rcases answered_or_first_broken valid entries with
    answered | ⟨checked, entry, rest, message, rfl, answered, untold⟩
  · obtain ⟨dropped, swept⟩ := sweep_of_answered answered
    rw [swept, List.filter_filter]
    simp only [Bool.and_self]
  · rw [sweep_of_broken answered untold, List.filter_append, List.filter_append, List.filter_filter]
    simp only [Bool.and_self]

theorem prune_eq_error_iff :
    prune valid tracker = .error halt next ↔
      ∃ message, halt = .fault message ∧ ∃ left, sweep valid tracker.entries = (.error message, left) ∧
        next = { tracker with entries := left } := by
  rw [prune]
  cases sweep valid tracker.entries with
  | mk counted left =>
      cases counted with
      | ok count => simp
      | error message =>
          simp only [EStateM.Result.error.injEq, Prod.mk.injEq, Except.error.injEq]
          constructor
          · rintro ⟨rfl, rfl⟩
            exact ⟨message, rfl, left, ⟨rfl, rfl⟩, rfl⟩
          · rintro ⟨_, rfl, _, ⟨rfl, rfl⟩, rfl⟩
            exact ⟨rfl, rfl⟩

theorem prune_of_broken {rest : List (Target × ProgressEntry)}
    (entries : tracker.entries = checked ++ entry :: rest)
    (answered : ∀ entry ∈ checked, ∃ alive, valid entry.1 = .ok alive)
    (untold : valid entry.1 = .error message) :
    prune valid tracker = .error (.fault message) { tracker with
      entries := checked.filter (fun entry => isAlive valid entry.1) ++ entry :: rest } := by
  rw [prune, entries, sweep_of_broken answered untold]

theorem prune_of_answered (answered : Answered valid tracker) :
    ∃ count, prune valid tracker = .ok count (tracker.kept valid) := by
  have all : ∀ entry ∈ tracker.entries, ∃ alive, valid entry.1 = .ok alive :=
    fun entry member => answered entry.1 (List.mem_map_of_mem member)
  obtain ⟨dropped, swept⟩ := sweep_of_answered all
  refine ⟨dropped, ?_⟩
  rw [prune, swept]
  rfl

end Sweeps

section Operations

theorem prune_eq_ok (ran : prune valid tracker = .ok count next) :
    Answered valid tracker ∧ next = tracker.kept valid := by
  simp only [prune] at ran
  split at ran
  · rename_i number entries swept
    cases ran
    obtain ⟨answered, rfl⟩ := sweep_eq_ok swept
    refine ⟨fun target member => ?_, rfl⟩
    obtain ⟨entry, inside⟩ := mem_targets.mp member
    exact answered _ inside
  · cases ran

theorem entry_eq_ok (ran : Tracker.entry valid target tracker = .ok value next) :
    Answered valid tracker ∧ next = (tracker.kept valid).enroll target ∧
      value = next.recorded target := by
  obtain ⟨count, between, pruned, ran⟩ := bind_eq_ok.mp ran
  obtain ⟨answered, rfl⟩ := prune_eq_ok pruned
  cases ran
  exact ⟨answered, rfl, rfl⟩

theorem shouldPresent_eq_ok {now : UInt64} {percent : UInt32} {allowed : Bool}
    (ran : shouldPresent valid now target percent tracker = .ok allowed next) :
    Answered valid tracker ∧ next = (tracker.kept valid).enroll target ∧
      allowed = allows next.settings (next.recorded target) now percent := by
  obtain ⟨last, between, asked, ran⟩ := bind_eq_ok.mp ran
  obtain ⟨answered, rfl, rfl⟩ := entry_eq_ok asked
  cases ran
  exact ⟨answered, rfl, rfl⟩

theorem numberAndCount_eq_ok {number : Nat}
    (ran : numberAndCount valid target tracker = .ok (number, count) next) :
    Answered valid tracker ∧ next = (tracker.kept valid).enroll target ∧
      number = next.position target + 1 ∧ count = next.entries.length := by
  obtain ⟨dropped, between, pruned, ran⟩ := bind_eq_ok.mp ran
  obtain ⟨answered, rfl⟩ := prune_eq_ok pruned
  cases ran
  exact ⟨answered, rfl, rfl, rfl⟩

theorem mostRecent_eq_ok {found : Option (Target × ProgressEntry)}
    (ran : mostRecent valid tracker = .ok found next) :
    Answered valid tracker ∧ next = tracker.kept valid ∧ found = latest next.entries := by
  obtain ⟨count, between, pruned, ran⟩ := bind_eq_ok.mp ran
  obtain ⟨answered, rfl⟩ := prune_eq_ok pruned
  cases ran
  exact ⟨answered, rfl, rfl⟩

theorem answer_eq_error_iff {σ α : Type} {query : Query α} {state after : σ} {halt : Halt} :
    answer query state = .error halt after ↔
      ∃ message, halt = .fault message ∧ query = .error message ∧ after = state := by
  rw [answer.eq_def]
  cases query with
  | ok value => simp
  | error message =>
      simp only [EStateM.Result.error.injEq, Except.error.injEq]
      constructor
      · rintro ⟨rfl, rfl⟩
        exact ⟨message, rfl, rfl, rfl⟩
      · rintro ⟨_, rfl, rfl, rfl⟩
        exact ⟨rfl, rfl⟩

/-- The value that is recorded: the given one, or else the percentage of the target. -/
def valueOr (percent : Target → Query (Option UInt32)) (target : Target) :
    Option UInt32 → Query (Option UInt32)
  | some value => .ok (some value)
  | none => percent target

theorem record_eq_ok {percent : Target → Query (Option UInt32)} {now : UInt64}
    {timestamp : Option UInt64} {given : Option UInt32}
    (ran : record valid percent now target timestamp given tracker = .ok () next) :
    Answered valid tracker ∧ ∃ told, valueOr percent target given = .ok told ∧
      next = ((tracker.kept valid).enroll target).write target ⟨some (timestamp.getD now), told⟩ := by
  obtain ⟨count, between, pruned, ran⟩ := bind_eq_ok.mp ran
  obtain ⟨answered, rfl⟩ := prune_eq_ok pruned
  refine ⟨answered, ?_⟩
  cases given with
  | some given =>
      cases ran
      exact ⟨some given, rfl, rfl⟩
  | none =>
      obtain ⟨told, between, asked, ran⟩ := bind_eq_ok.mp ran
      simp only [answer] at asked
      split at asked
      · rename_i percent told
        cases asked
        cases ran
        exact ⟨_, told, rfl⟩
      · cases asked

end Operations

section Standing

variable {valid : Target → Query Bool} {target other : Target} {value : ProgressEntry}

/-- The last presented update of a target; none of one that is not valid. -/
def standing (valid : Target → Query Bool) (target : Target) (tracker : Tracker) : ProgressEntry :=
  (tracker.kept valid).recorded target

theorem standing_eq (valid : Target → Query Bool) (target : Target) (tracker : Tracker) :
    standing valid target tracker =
      ((tracker.entries.find? fun entry => isAlive valid entry.1 && entry.1 = target).map
        Prod.snd).getD .fresh := by
  simp [standing, recorded, find?, kept, List.find?_filter]

theorem standing_of_valid (alive : valid target = .ok true) (tracker : Tracker) :
    standing valid target tracker = tracker.recorded target := by
  have same (entry : Target × ProgressEntry) :
      (isAlive valid entry.1 && decide (entry.1 = target)) = decide (entry.1 = target) := by
    by_cases here : entry.1 = target
    · rw [here, isAlive_iff.mpr alive]
      rfl
    · simp [here]
  simp only [standing_eq, same]
  rfl

theorem keeps_prune (valid : Target → Query Bool) (target : Target) :
    Keeps (standing valid target) (prune valid) := by
  intro tracker
  have same := filter_sweep valid tracker.entries
  rw [prune]
  split
  all_goals
    rename_i swept
    rw [swept] at same
    rw [finalState, standing, standing, kept, kept, same]

theorem standing_enroll (valid : Target → Query Bool) (target other : Target) (tracker : Tracker) :
    standing valid target (tracker.enroll other) = standing valid target tracker := by
  by_cases known : other ∈ tracker.targets
  · rw [enroll_of_mem known]
  · rw [standing_eq, standing_eq, entries_enroll_of_not_mem known, List.find?_append]
    cases tracker.entries.find? _ with
    | some entry => rfl
    | none =>
        rw [Option.none_or, List.find?_singleton]
        split <;> rfl

theorem standing_write (apart : other ≠ target) (tracker : Tracker) :
    standing valid target (tracker.write other value) = standing valid target tracker := by
  rw [standing_eq, standing_eq, write]
  induction tracker.entries with
  | nil => rfl
  | cons entry rest ih =>
      rw [List.map_cons, List.find?_cons, List.find?_cons]
      by_cases here : entry.1 = other
      · simpa [here, apart] using ih
      · rw [if_neg here]
        split
        · rfl
        · exact ih

theorem find?_write (tracker : Tracker) (target : Target) (value : ProgressEntry) :
    (tracker.write target value).find? target = (tracker.find? target).map fun _ => value := by
  rw [find?, find?, write]
  induction tracker.entries with
  | nil => rfl
  | cons entry rest ih =>
      by_cases here : entry.1 = target
      · simp [here]
      · simpa [here] using ih

theorem recorded_write_enroll (tracker : Tracker) (target : Target) (value : ProgressEntry) :
    ((tracker.enroll target).write target value).recorded target = value := by
  have known : ((tracker.enroll target).find? target).isSome := by
    by_cases known : target ∈ tracker.targets
    · rw [enroll_of_mem known]
      exact isSome_find?.mpr known
    · rw [isSome_find?, targets_enroll_of_not_mem known]
      exact List.mem_append_right _ (.head _)
  rw [recorded, find?_write]
  obtain ⟨last, found⟩ := Option.isSome_iff_exists.mp known
  rw [found]
  rfl

theorem keeps_entry (valid : Target → Query Bool) (target other : Target) :
    Keeps (standing valid target) (Tracker.entry valid other) :=
  (keeps_prune valid target).bind fun _ =>
    (keeps_modify (standing_enroll valid target other)).bind fun _ _ => rfl

theorem keeps_shouldPresent (valid : Target → Query Bool) (target other : Target) (now : UInt64)
    (value : UInt32) : Keeps (standing valid target) (shouldPresent valid now other value) :=
  (keeps_entry valid target other).bind fun _ _ => rfl

theorem keeps_numberAndCount (valid : Target → Query Bool) (target other : Target) :
    Keeps (standing valid target) (numberAndCount valid other) :=
  (keeps_prune valid target).bind fun _ =>
    (keeps_modify (standing_enroll valid target other)).bind fun _ _ => rfl

variable {percent : Target → Query (Option UInt32)} {now : UInt64}

theorem keeps_record (apart : other ≠ target) (timestamp : Option UInt64) (given : Option UInt32) :
    Keeps (standing valid target) (record valid percent now other timestamp given) := by
  have written (value : ProgressEntry) :
      Keeps (standing valid target)
        (modify fun tracker => (tracker.enroll other).write other value : Action Tracker Unit) :=
    keeps_modify fun tracker => (standing_write apart _).trans (standing_enroll _ _ _ _)
  refine (keeps_prune valid target).bind fun _ => ?_
  cases given with
  | some given => exact written _
  | none => exact (keeps_answer _).bind fun _ => written _

/-- Where the record breaks down, nothing is written. -/
theorem standing_of_record_error {timestamp : Option UInt64} {given : Option UInt32} {halt : Halt}
    {tracker next : Tracker}
    (broken : record valid percent now other timestamp given tracker = .error halt next) :
    standing valid target next = standing valid target tracker := by
  rcases bind_eq_error.mp broken with broken | ⟨count, between, pruned, broken⟩
  · exact (keeps_prune valid target).of_error broken
  · refine Eq.trans ?_ ((keeps_prune valid target).of_eq pruned)
    cases given with
    | some given => cases broken
    | none =>
        rcases bind_eq_error.mp broken with broken | ⟨told, after, asked, broken⟩
        · exact (keeps_answer _).of_error broken
        · cases broken

theorem recorded_record {tracker next : Tracker} {timestamp : Option UInt64} {given : Option UInt32}
    (ran : record valid percent now target timestamp given tracker = .ok () next) :
    ∃ told, valueOr percent target given = .ok told ∧
      next.recorded target = ⟨some (timestamp.getD now), told⟩ := by
  obtain ⟨-, told, asked, rfl⟩ := record_eq_ok ran
  exact ⟨told, asked, recorded_write_enroll _ _ _⟩

end Standing

section Settings

variable (valid : Target → Query Bool) (percent : Target → Query (Option UInt32)) (now : UInt64)
  (target : Target)

theorem keeps_settings_prune :
    Keeps (fun tracker : Tracker => tracker.settings) (prune valid) := by
  intro tracker
  rw [prune]
  split <;> rfl

theorem settings_enroll (tracker : Tracker) (target : Target) :
    (tracker.enroll target).settings = tracker.settings := by
  unfold enroll
  split <;> rfl

theorem keeps_settings_entry :
    Keeps (fun tracker : Tracker => tracker.settings) (Tracker.entry valid target) :=
  (keeps_settings_prune valid).bind fun _ =>
    (keeps_modify fun tracker => settings_enroll tracker target).bind fun _ _ => rfl

theorem keeps_settings_shouldPresent (value : UInt32) :
    Keeps (fun tracker : Tracker => tracker.settings) (shouldPresent valid now target value) :=
  (keeps_settings_entry valid target).bind fun _ _ => rfl

theorem keeps_settings_numberAndCount :
    Keeps (fun tracker : Tracker => tracker.settings) (numberAndCount valid target) :=
  (keeps_settings_prune valid).bind fun _ =>
    (keeps_modify fun tracker => settings_enroll tracker target).bind fun _ _ => rfl

theorem keeps_settings_record (timestamp : Option UInt64) (given : Option UInt32) :
    Keeps (fun tracker : Tracker => tracker.settings)
      (record valid percent now target timestamp given) := by
  have written (value : ProgressEntry) : Keeps (fun tracker : Tracker => tracker.settings)
      (modify fun tracker => (tracker.enroll target).write target value : Action Tracker Unit) :=
    keeps_modify fun tracker => settings_enroll tracker target
  refine (keeps_settings_prune valid).bind fun _ => ?_
  cases given with
  | some given => exact written _
  | none => exact (keeps_answer _).bind fun _ => written _

end Settings

section Rule

/-- The clock may go back; then no time has passed. -/
theorem le_elapsed_iff {interval now earlier : UInt64} :
    interval ≤ elapsed now earlier ↔
      interval = 0 ∨ earlier.toNat + interval.toNat ≤ now.toNat := by
  rw [UInt64.le_iff_toNat_le, ← UInt64.toNat_inj, UInt64.toNat_zero]
  by_cases back : now < earlier
  · have order : now.toNat < earlier.toNat := back
    rw [elapsed, if_pos back, UInt64.toNat_zero]
    omega
  · have order : earlier ≤ now := UInt64.not_lt.mp back
    have before : earlier.toNat ≤ now.toNat := order
    rw [elapsed, if_neg back, UInt64.toNat_sub_of_le now earlier order]
    omega

theorem allows_iff {settings : ProgressSettings} {last : ProgressEntry} {now : UInt64}
    {value : UInt32} :
    allows settings last now value = true ↔
      value = settings.completeValue ∨ last.value ≠ some value ∧
        ∀ time, last.updatedAt = some time →
          settings.updateInterval = 0 ∨ time.toNat + settings.updateInterval.toNat ≤ now.toNat := by
  unfold allows
  by_cases complete : value = settings.completeValue
  · simp [complete]
  by_cases unchanged : last.value = some value
  · simp [complete, unchanged]
  cases presented : last.updatedAt with
  | none => simp [complete, unchanged]
  | some time => simp [complete, unchanged, le_elapsed_iff]

end Rule

end Narration.Tracker
