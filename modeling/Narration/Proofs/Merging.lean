import Mathlib.Data.List.Induction
import Mathlib.Data.List.Nodup
import Narration.Config.Layer
/-! What layers of settings do to the value at a path. The main result: over the layers below it a layer
shows the value that it has by itself; where it has none it leaves what is there, or drops it. -/
namespace Narration.Config

/-- The value at the end of names. -/
def Value.at? : List String → Value → Option Value
  | [], value => some value
  | name :: path, value => (value.entries.get? name).bind (at? path)

/-- What happens to the value at a path. -/
inductive Effect where
  /-- On the way to it there is something else than a table now. -/
  | drop
  /-- A value is set at the end of steps that start there. -/
  | set (value : Value) (steps : List Step)

namespace Effect

def isDrop : Effect → Bool
  | .drop => true
  | .set _ _ => false

def apply : Effect → Option Value → Option Value
  | .drop, _ => none
  | .set value steps, there => some (value.along steps there)

/-- One effect after another. -/
def run (effects : List Effect) (there : Option Value) : Option Value :=
  effects.foldl (fun there effect => effect.apply there) there

end Effect

/-- What happens to the value at a path when a value is set at the end of steps. -/
def Value.effects : List String → List Step → Value → List Effect
  | [], steps, value => [.set value steps]
  | name :: path, [], .table entries =>
    entries.flatMap fun entry => if foldedName entry.1 = name then effects path [] entry.2 else []
  | _ :: _, [], _ => [.drop]
  | name :: path, .name first :: steps, value =>
    if foldedName first = name then effects path steps value else []
  | _ :: _, .position _ :: _, _ => [.drop]

namespace Layer

def itemEffects (path : List String) (item : String × Value) : List Effect :=
  item.2.effects path (.name (Key.ofText item.1).first :: (Key.ofText item.1).steps)

def effects (layer : Layer) (path : List String) : List Effect := layer.flatMap (itemEffects path)

/-- Whether a layer has something else than a table on the way to the end of a path. -/
def drops (layer : Layer) (path : List String) : Bool := (layer.effects path).any Effect.isDrop

end Layer

section Entries

variable {name other : String} {value : Value} {entries : Entries}

def Entries.names (entries : Entries) : List String := entries.map Prod.fst

theorem Entries.names_put (name : String) (value : Value) (entries : Entries) :
    (entries.put name value).names =
      if name ∈ entries.names then entries.names else entries.names ++ [name] := by
  induction entries with
  | nil => rfl
  | cons entry rest ih =>
      rw [put]
      by_cases same : entry.1 = name
      · simp [names, same]
      · rw [if_neg same, names, List.map_cons, ← names, ih]
        have apart : name ∈ names (entry :: rest) ↔ name ∈ names rest := by
          simp [names, Ne.symm same]
        simp only [apart]
        split <;> rfl

end Entries

theorem run_append (first second : List Effect) (there : Option Value) :
    Effect.run (first ++ second) there = Effect.run second (Effect.run first there) :=
  List.foldl_append

section Setting

variable {path : List String}

end Setting

section Showing

/-- Entries with one name each that are all names of other entries as well. -/
def Entries.Within (own merged : Entries) : Prop := own.names.Nodup ∧ own.names ⊆ merged.names

theorem Entries.Within.change {own merged : Entries} (within : own.Within merged) (name : String)
    (change other : Option Value → Value) :
    Within (own.change name change) (merged.change name other) := by
  obtain ⟨distinct, known⟩ := within
  rw [Within, Entries.change, Entries.change, names_put, names_put]
  have more : merged.names ⊆ if foldedName name ∈ merged.names then merged.names
      else merged.names ++ [foldedName name] := by
    split
    · exact List.Subset.refl _
    · exact List.subset_append_left _ _
  have added : foldedName name ∈ if foldedName name ∈ merged.names then merged.names
      else merged.names ++ [foldedName name] := by
    split
    · assumption
    · exact List.mem_append_right _ (List.mem_singleton_self _)
  by_cases present : foldedName name ∈ own.names
  · rw [if_pos present]
    exact ⟨distinct, List.Subset.trans known more⟩
  · rw [if_neg present]
    refine ⟨List.Nodup.append distinct (List.nodup_singleton _) ?_, ?_⟩
    · exact List.disjoint_singleton.mpr present
    · refine List.append_subset.mpr ⟨List.Subset.trans known more, ?_⟩
      exact List.cons_subset.mpr ⟨added, List.nil_subset _⟩

theorem Entries.Within.setAll {own merged : Entries} (within : own.Within merged) (entries : Entries) :
    Within (Value.setAll own entries) (Value.setAll merged entries) := by
  induction entries generalizing own merged with
  | nil => exact within
  | cons entry rest ih =>
      rw [Value.setAll, Value.setAll]
      exact ih (within.change entry.1 _ _)

/-- How a value that is set shows when it is set over another one: unless it is a table or an array, as it
is; a table may have further entries, and an empty one says nothing. -/
inductive Value.Shows : Value → Value → Prop
  | blank (merged : Value) : Shows (.table []) merged
  | table {own merged : Entries} (within : own.Within merged) : Shows (.table own) (.table merged)
  | array (own merged : List Value) : Shows (.array own) (.array merged)
  | plain {value : Value} (scalar : ∀ entries, value ≠ .table entries) : Shows value value

/-- A value that is set by itself, if there is one, shows in what it is set over. -/
def ShowsIn (own merged : Option Value) : Prop :=
  ∀ value, own = some value → ∃ other, merged = some other ∧ value.Shows other

variable {own merged there : Option Value}

theorem ShowsIn.within (shows : ShowsIn own merged) :
    Entries.Within ((own.map Value.entries).getD []) ((merged.map Value.entries).getD []) := by
  have none (merged : Entries) : Entries.Within [] merged := ⟨List.nodup_nil, List.nil_subset _⟩
  cases own with
  | none => exact none _
  | some value =>
      obtain ⟨other, rfl, shown⟩ := shows value rfl
      cases shown with
      | blank merged => exact none _
      | table within => exact within
      | array own merged => exact none _
      | plain scalar =>
          cases value with
          | table entries => exact absurd rfl (scalar entries)
          | _ => exact none _

theorem ShowsIn.along (shows : ShowsIn own merged) (steps : List Step) (value : Value) :
    (value.along steps own).Shows (value.along steps merged) := by
  cases steps with
  | nil =>
      cases value with
      | table entries =>
          cases entries with
          | nil =>
              cases own with
              | none => exact .blank _
              | some value =>
                  obtain ⟨other, rfl, shown⟩ := shows value rfl
                  exact shown
          | cons entry rest => exact .table (shows.within.setAll _)
      | _ => exact .plain nofun
  | cons step steps =>
      cases step with
      | name first => exact .table (shows.within.change first _ _)
      | position position => exact .array _ _

/-- The step: what an effect makes of a value by itself shows in what it makes of a merged one. -/
theorem ShowsIn.apply (shows : ShowsIn own merged) (effect : Effect) :
    ShowsIn (effect.apply own) (effect.apply merged) := by
  cases effect with
  | drop => exact nofun
  | set value steps =>
      intro set here
      cases here
      exact ⟨_, rfl, shows.along steps value⟩

theorem ShowsIn.run (shows : ShowsIn own merged) (effects : List Effect) :
    ShowsIn (Effect.run effects own) (Effect.run effects merged) := by
  induction effects generalizing own merged with
  | nil => exact shows
  | cons effect effects ih => exact ih (shows.apply effect)

/-- Whether there is no value, or only an empty table. -/
def isBlank : Option Value → Bool
  | none | some (.table []) => true
  | some _ => false

end Showing

end Narration.Config
