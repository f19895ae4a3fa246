/-! Finite maps as lists of entries in ascending order of their keys. -/
namespace Narration

/-- One entry for each key, in ascending order. -/
structure SortedMap (κ α : Type) where
  entries : List (κ × α)
  deriving Repr, DecidableEq

namespace SortedMap

variable {κ α : Type}

def empty : SortedMap κ α := ⟨[]⟩

instance : Inhabited (SortedMap κ α) := ⟨empty⟩

def insertEntry [Ord κ] (key : κ) (value : α) : List (κ × α) → List (κ × α)
  | [] => [(key, value)]
  | entry :: rest =>
    match compare key entry.1 with
    | .lt => (key, value) :: entry :: rest
    | .eq => (key, value) :: rest
    | .gt => entry :: insertEntry key value rest

/-- The map in which `key` has `value`, whatever it had before. -/
def insert [Ord κ] (map : SortedMap κ α) (key : κ) (value : α) : SortedMap κ α :=
  ⟨insertEntry key value map.entries⟩

def get? [DecidableEq κ] (map : SortedMap κ α) (key : κ) : Option α :=
  (map.entries.find? fun entry => entry.1 = key).map Prod.snd

def contains [DecidableEq κ] (map : SortedMap κ α) (key : κ) : Bool :=
  (map.get? key).isSome

def keys (map : SortedMap κ α) : List κ := map.entries.map Prod.fst

def size (map : SortedMap κ α) : Nat := map.entries.length

def ofList [Ord κ] (entries : List (κ × α)) : SortedMap κ α :=
  entries.foldl (fun map entry => map.insert entry.1 entry.2) empty

theorem mem_entries_of_get? [DecidableEq κ] {map : SortedMap κ α} {key : κ} {value : α}
    (found : map.get? key = some value) : (key, value) ∈ map.entries := by
  obtain ⟨entry, located, rfl⟩ := Option.map_eq_some_iff.mp found
  have same : entry.1 = key := by simpa using List.find?_some located
  rw [← same]
  exact List.mem_of_find?_eq_some located

theorem contains_keys [DecidableEq κ] (map : SortedMap κ α) (key : κ) :
    map.keys.contains key = map.contains key := by
  rw [Bool.eq_iff_iff, List.contains_iff_mem, contains, get?, Option.isSome_map, List.find?_isSome,
    keys, List.mem_map]
  simp

theorem find?_insertEntry [Ord κ] [Std.LawfulEqOrd κ] [DecidableEq κ] (key other : κ) (value : α)
    (entries : List (κ × α)) :
    (insertEntry key value entries).find? (fun entry => entry.1 = other) =
      if key = other then some (key, value) else entries.find? fun entry => entry.1 = other := by
  induction entries with
  | nil => by_cases same : key = other <;> simp [insertEntry, same]
  | cons entry rest ih =>
    rw [insertEntry]
    cases order : compare key entry.1 with
    | lt => by_cases same : key = other <;> simp [List.find?_cons, same]
    | eq =>
      have here : key = entry.1 := Std.compare_eq_iff_eq.mp order
      by_cases same : key = other <;> simp [same, ← here]
    | gt =>
      have apart : key ≠ entry.1 := by
        intro here
        rw [Std.compare_eq_iff_eq.mpr here] at order
        cases order
      rw [List.find?_cons, ih, List.find?_cons]
      by_cases same : key = other
      · subst same
        simp [apart.symm]
      · simp [same]

/-- The last value given to a key is the one that it has. -/
theorem get?_insert [Ord κ] [Std.LawfulEqOrd κ] [DecidableEq κ] (map : SortedMap κ α)
    (key other : κ) (value : α) :
    (map.insert key value).get? other = if key = other then some value else map.get? other := by
  rw [get?, insert, find?_insertEntry]
  split
  · rfl
  · rfl

end SortedMap
end Narration
