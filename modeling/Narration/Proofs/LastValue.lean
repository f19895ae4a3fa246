import Mathlib.Data.List.Dedup
import Mathlib.Data.List.Induction
import Narration.Proofs.Stored
/-! Maps that are made of a list: each key has the last value that the list gives to it, and the map
lists it once. -/
namespace Narration.SortedMap

theorem ne_of_compare_eq_lt {κ : Type} [Ord κ] [Std.ReflOrd κ] {first second : κ}
    (below : compare first second = .lt) : first ≠ second := by
  rintro rfl
  rw [Std.compare_self] at below
  cases below

variable {κ α : Type}

/-- The last value that a list gives to a key. -/
def last? [DecidableEq κ] (entries : List (κ × α)) (key : κ) : Option α :=
  (entries.filter fun entry => entry.1 = key).getLast?.map Prod.snd

section Last

variable [DecidableEq κ] {entries : List (κ × α)} {key : κ} {value : α}

theorem last?_append_singleton (entries : List (κ × α)) (entry : κ × α) (key : κ) :
    last? (entries ++ [entry]) key = if entry.1 = key then some entry.2 else last? entries key := by
  by_cases same : entry.1 = key <;> simp [last?, same]

theorem last?_append (earlier later : List (κ × α)) (key : κ) :
    last? (earlier ++ later) key = (last? later key).or (last? earlier key) := by
  rw [last?, last?, last?, List.filter_append, List.getLast?_append]
  cases (later.filter fun entry => entry.1 = key).getLast? <;> rfl

theorem isSome_last?_iff : (last? entries key).isSome ↔ key ∈ entries.map Prod.fst := by
  rw [last?, Option.isSome_map, List.getLast?_isSome, ne_eq, List.filter_eq_nil_iff]
  simp

theorem last?_eq_none_iff : last? entries key = none ↔ key ∉ entries.map Prod.fst := by
  rw [← isSome_last?_iff, Option.not_isSome_iff_eq_none]

/-- A value that no later one replaces is the last one. -/
theorem last?_of_unreplaced {earlier later : List (κ × α)}
    (unreplaced : key ∉ later.map Prod.fst) :
    last? (earlier ++ (key, value) :: later) key = some value := by
  rw [List.append_cons, last?_append, last?_eq_none_iff.mpr unreplaced, last?_append_singleton,
    if_pos rfl]
  rfl

end Last

theorem mem_keys_iff [DecidableEq κ] {map : SortedMap κ α} {key : κ} :
    key ∈ map.keys ↔ (map.get? key).isSome := by
  rw [← List.contains_iff_mem, contains_keys, contains]

section Made

variable [Ord κ]

theorem ofList_append_singleton (entries : List (κ × α)) (entry : κ × α) :
    ofList (entries ++ [entry]) = (ofList entries).insert entry.1 entry.2 := by
  rw [ofList, ofList, List.foldl_append]
  rfl

/-- A map that is made of a list has the last value for each key. -/
theorem get?_ofList [Std.LawfulEqOrd κ] [DecidableEq κ] (entries : List (κ × α)) (key : κ) :
    (ofList entries).get? key = last? entries key := by
  induction entries using List.reverseRecOn with
  | nil => rfl
  | append_singleton entries entry ih =>
      rw [ofList_append_singleton, get?_insert, last?_append_singleton, ih]

variable [Std.TransOrd κ]

theorem isSorted_ofList (entries : List (κ × α)) : (ofList entries).IsSorted := by
  induction entries using List.reverseRecOn with
  | nil => exact isSorted_empty
  | append_singleton entries entry ih =>
      rw [ofList_append_singleton]
      exact ih.insert entry.1 entry.2

theorem IsSorted.nodup_entries {map : SortedMap κ α} (sorted : map.IsSorted) : map.entries.Nodup :=
  sorted.imp fun below same => ne_of_compare_eq_lt below (congrArg Prod.fst same)

theorem IsSorted.nodup_keys {map : SortedMap κ α} (sorted : map.IsSorted) : map.keys.Nodup := by
  rw [List.Nodup, keys, List.pairwise_map]
  exact sorted.imp ne_of_compare_eq_lt

variable [Std.LawfulEqOrd κ] [DecidableEq κ] {entries : List (κ × α)} {key : κ} {value : α}

theorem mem_entries_ofList :
    (key, value) ∈ (ofList entries).entries ↔ last? entries key = some value := by
  rw [← (isSorted_ofList entries).get?_eq_some_iff, get?_ofList]

theorem mem_of_mem_ofList {entry : κ × α} (member : entry ∈ (ofList entries).entries) :
    entry ∈ entries := by
  have last : last? entries entry.1 = some entry.2 := mem_entries_ofList.mp member
  obtain ⟨given, isLast, same⟩ := Option.map_eq_some_iff.mp last
  obtain ⟨present, here⟩ := List.mem_filter.mp (List.mem_of_getLast? isLast)
  have found : given = entry := Prod.ext (of_decide_eq_true here) same
  rwa [found] at present

/-- The map lists each key of the list once. -/
theorem perm_keys_ofList (entries : List (κ × α)) :
    (ofList entries).keys.Perm (entries.map Prod.fst).dedup := by
  refine (List.perm_ext_iff_of_nodup (isSorted_ofList entries).nodup_keys
    (List.nodup_dedup _)).mpr fun key => ?_
  rw [mem_keys_iff, get?_ofList, isSome_last?_iff, List.mem_dedup]

end Made

end Narration.SortedMap
