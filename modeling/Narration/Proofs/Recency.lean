import Narration.Proofs.Breakdown
/-! Which indicator was updated last. The main result: of the indicators that are alive it is one with the
latest recorded time, and of several the one that was first seen last. -/
namespace Narration

/-- The time of the last update, below which there is only the lack of any. -/
def ProgressEntry.recency (entry : ProgressEntry) : Nat :=
  match entry.updatedAt with
  | none => 0
  | some time => time.toNat + 1

namespace Tracker

variable {tracker next : Tracker} {valid : Target → Query Bool}

section Latest

variable {entries : List (Target × ProgressEntry)} {found : Target × ProgressEntry}

theorem notLater_iff {first second : ProgressEntry} :
    notLater first.updatedAt second.updatedAt = true ↔ first.recency ≤ second.recency := by
  unfold ProgressEntry.recency
  cases first.updatedAt with
  | none => simp [notLater]
  | some earlier =>
      cases second.updatedAt with
      | none => simp [notLater]
      | some later => simp [notLater, UInt64.le_iff_toNat_le]

theorem latest_concat (entries : List (Target × ProgressEntry)) (last : Target × ProgressEntry) :
    latest (entries ++ [last]) =
      match latest entries with
      | none => some last
      | some best => some (if best.2.recency ≤ last.2.recency then last else best) := by
  cases entries with
  | nil => rfl
  | cons first rest =>
      rw [List.cons_append, latest, List.foldl_append, latest]
      simp only [List.foldl_cons, List.foldl_nil, notLater_iff]

theorem latest_eq_none_iff : latest entries = none ↔ entries = [] := by
  cases entries with
  | nil => exact iff_of_true rfl rfl
  | cons first rest => exact iff_of_false nofun nofun

/-- No entry is later than the one found, and those behind it are earlier. -/
theorem latest_eq_some (latest : latest entries = some found) :
    ∃ before after, entries = before ++ found :: after ∧
      (∀ entry ∈ before, entry.2.recency ≤ found.2.recency) ∧
      ∀ entry ∈ after, entry.2.recency < found.2.recency := by
  induction entries using List.reverseRecOn generalizing found with
  | nil => cases latest
  | append_singleton entries last ih =>
      rw [latest_concat] at latest
      cases best : Tracker.latest entries with
      | none =>
          rw [best] at latest
          cases latest
          rw [latest_eq_none_iff.mp best]
          exact ⟨[], [], rfl, List.forall_mem_nil _, List.forall_mem_nil _⟩
      | some best' =>
          rw [best] at latest
          obtain ⟨before, after, rfl, earlier, behind⟩ := ih best
          by_cases later : best'.2.recency ≤ last.2.recency
          · simp only [if_pos later] at latest
            cases latest
            refine ⟨before ++ best' :: after, [], rfl, fun entry member => ?_, List.forall_mem_nil _⟩
            refine Nat.le_trans ?_ later
            rcases List.mem_append.mp member with inside | inside
            · exact earlier entry inside
            · rcases List.mem_cons.mp inside with rfl | inside
              · exact Nat.le_refl _
              · exact Nat.le_of_lt (behind entry inside)
          · simp only [if_neg later] at latest
            cases latest
            refine ⟨before, after ++ [last], by simp, earlier, fun entry member => ?_⟩
            rcases List.mem_append.mp member with inside | inside
            · exact behind entry inside
            · rw [List.mem_singleton.mp inside]
              exact Nat.lt_of_not_le later

end Latest

section Mending

/-- A sublist is told from the rest by its keys, if these are distinct. -/
theorem filter_eq_of_sublist {left entries : List (Target × ProgressEntry)}
    (sublist : left.Sublist entries) (distinct : (entries.map Prod.fst).Nodup) :
    entries.filter (fun entry => entry.1 ∈ left.map Prod.fst) = left := by
  induction sublist with
  | slnil => rfl
  | @cons left entries entry sublist ih =>
      obtain ⟨new, distinct⟩ := List.nodup_cons.mp distinct
      have gone : entry.1 ∉ left.map Prod.fst := fun member => new ((sublist.map Prod.fst).subset member)
      rw [List.filter_cons_of_neg (by simpa using gone)]
      exact ih distinct
  | @cons_cons left entries entry sublist ih =>
      obtain ⟨new, distinct⟩ := List.nodup_cons.mp distinct
      rw [List.filter_cons_of_pos (by simp)]
      refine congrArg (entry :: ·) (Eq.trans (List.filter_congr fun other member => ?_) (ih distinct))
      have apart : other.1 ≠ entry.1 := fun same => new (same ▸ List.mem_map_of_mem member)
      simp [apart]

/-- A sweep that leaves the given targets. -/
def Access.leaving (access : Access) (left : List Target) : Access :=
  { access with operation := .prune, valid := fun target => .ok (decide (target ∈ left)) }

/-- The operation itself, or if it breaks off, a sweep that drops what the operation did drop. -/
def Access.mended (access : Access) (tracker : Tracker) : Access :=
  match access.perform tracker with
  | .ok _ _ => access
  | .error _ next => access.leaving next.targets

/-- A history in which nothing breaks off, and that leaves the same. -/
def mended : List Access → Tracker → List Access
  | [], _ => []
  | access :: history, tracker =>
    access.mended tracker :: mended history (finalState (access.perform tracker))

theorem Access.perform_leaving (access : Access) (sublist : next.entries.Sublist tracker.entries)
    (settings : next.settings = tracker.settings) (distinct : tracker.targets.Nodup) :
    (access.leaving next.targets).perform tracker = .ok () next := by
  have told : Answered (access.leaving next.targets).valid tracker := fun target _ => ⟨_, rfl⟩
  obtain ⟨count, pruned⟩ := prune_of_answered told
  have left : tracker.kept (access.leaving next.targets).valid = next := by
    have entries : (tracker.kept (access.leaving next.targets).valid).entries = next.entries := by
      refine Eq.trans (List.filter_congr fun entry _ => ?_) (filter_eq_of_sublist sublist distinct)
      rw [Bool.eq_iff_iff, isAlive_iff]
      exact ⟨Except.ok.inj, congrArg Except.ok⟩
    exact congrArg₂ Tracker.mk entries settings.symm
  exact (bind_of_ok pruned _).trans (congrArg (EStateM.Result.ok ()) left)

theorem Access.perform_mended (access : Access) (distinct : tracker.targets.Nodup) :
    (access.mended tracker).perform tracker = .ok () (finalState (access.perform tracker)) := by
  unfold mended
  cases ran : access.perform tracker with
  | ok done next => exact ran
  | error halt next =>
      obtain ⟨message, -, breaks⟩ := perform_eq_error_iff.mp ran
      exact access.perform_leaving breaks.sublist breaks.settings distinct

theorem follow_mended {history : List Access} (distinct : tracker.targets.Nodup) :
    follow (mended history tracker) tracker = .ok () (attempt history tracker) := by
  induction history generalizing tracker with
  | nil => rfl
  | cons access history ih =>
      rw [mended, follow, List.forM_cons, bind_of_ok (access.perform_mended distinct)]
      exact ih (nodup_perform access distinct)

theorem dictates_attempt (settings : ProgressSettings) (history : List Access) :
    Dictates (mended history (.empty settings)) (attempt history (.empty settings)) :=
  dictates_of_follow (follow_mended List.nodup_nil)

end Mending

/-- The indicator that was updated last is looked for among those that are alive, and all others are
dropped. There is none if and only if none is left. Otherwise its entry is as it was recorded, no entry of
another one is later, and all others with the same time were seen before it. -/
theorem most_recent_is_latest (settings : ProgressSettings) (history : List Access)
    (valid : Target → Query Bool) (answered : Answered valid (attempt history (.empty settings))) :
    let tracker := attempt history (.empty settings)
    let alive := tracker.entries.filter fun entry => decide (valid entry.1 = .ok true)
    ∃ found, mostRecent valid tracker = .ok found { tracker with entries := alive } ∧
      (found = none ↔ alive = []) ∧
      ∀ target last, found = some (target, last) →
        (target, last) ∈ alive ∧ Holds (mended history (.empty settings)) target last ∧
        ∀ other entry, (other, entry) ∈ alive → other ≠ target →
          entry.recency < last.recency ∨ entry.recency = last.recency ∧
            ∃ n, Created (mended history (.empty settings)) other n ∧
              ∀ m, Created (mended history (.empty settings)) target m → n < m := by
  intro tracker alive
  have dictates := dictates_attempt settings history
  have kept : (tracker.kept valid).entries = alive := by
    refine List.filter_congr fun entry _ => ?_
    rw [Bool.eq_iff_iff, isAlive_iff, decide_eq_true_iff]
  have ordered : (alive.map Prod.fst).Pairwise fun first second =>
      ∃ n, Created (mended history (.empty settings)) first n ∧
        ∀ m, Created (mended history (.empty settings)) second m → n < m :=
    dictates.ordered.sublist (List.filter_sublist.map Prod.fst)
  obtain ⟨count, pruned⟩ := prune_of_answered answered
  refine ⟨latest alive, ?_, latest_eq_none_iff, fun target last found => ?_⟩
  · rw [← kept]
    exact bind_of_ok pruned _
  · obtain ⟨before, after, split, earlier, behind⟩ := latest_eq_some found
    have member : (target, last) ∈ alive := by
      rw [split]
      exact List.mem_append_right before List.mem_cons_self
    refine ⟨member, dictates.holds target last (List.mem_filter.mp member).1, ?_⟩
    intro other entry living apart
    rw [split] at living ordered
    rcases List.mem_append.mp living with inside | inside
    · rcases Nat.lt_or_eq_of_le (earlier _ inside) with less | same
      · exact .inl less
      · rw [List.map_append, List.pairwise_append] at ordered
        refine .inr ⟨same, ordered.2.2 other (List.mem_map_of_mem inside) target ?_⟩
        exact List.mem_cons_self
    · rcases List.mem_cons.mp inside with same | inside
      · exact absurd (congrArg Prod.fst same) apart
      · exact .inl (behind _ inside)

section Example

/-- Times that are given do not follow the order of the calls. The fourth indicator is only looked at, and
the last operation breaks off before it records anything. -/
def downloads : List Access :=
  let all : Target → Query Bool := fun _ => .ok true
  let butThird : Target → Query Bool := fun target => if target = 3 then .error "gone" else .ok true
  let percent : Target → Query (Option UInt32) := fun _ => .ok (some 20)
  [⟨.record 1 (some 9) (some 10), all, percent, 6⟩, ⟨.record 2 (some 5) none, all, percent, 7⟩,
    ⟨.record 3 (some 9) (some 30), all, percent, 8⟩, ⟨.entry 4, all, percent, 8⟩,
    ⟨.record 5 none (some 50), all, percent, 10⟩, ⟨.record 2 none none, butThird, percent, 11⟩]

/-- The fifth has been closed, and the third was first seen after the first. -/
theorem most_recent_is_latest_third :
    let valid : Target → Query Bool := fun target => .ok (decide (target ≠ 5))
    let left : Tracker := ⟨[(1, ⟨some 9, some 10⟩), (2, ⟨some 5, some 20⟩), (3, ⟨some 9, some 30⟩),
      (4, .fresh)], .standard⟩
    Answered valid (attempt downloads (.empty .standard)) ∧
      mostRecent valid (attempt downloads (.empty .standard)) = .ok (some (3, ⟨some 9, some 30⟩)) left ∧
      Holds (mended downloads (.empty .standard)) 3 ⟨some 9, some 30⟩ := by
  intro valid left
  have answered : Answered valid (attempt downloads (.empty .standard)) := fun target _ => ⟨_, rfl⟩
  obtain ⟨found, ran, -, known⟩ := most_recent_is_latest .standard downloads valid answered
  have evaluated : mostRecent valid (attempt downloads (.empty .standard)) =
      .ok (some (3, ⟨some 9, some 30⟩)) left := by rfl
  have same : found = some (3, ⟨some 9, some 30⟩) := by
    rw [evaluated] at ran
    cases ran
    rfl
  exact ⟨answered, evaluated, (known _ _ same).2.1⟩

end Example

end Tracker
end Narration
