import Narration.Proofs.Merging
/-! What layers tell about the value at a path. The main result: over each other they leave what the highest
one tells that tells anything about it. -/
namespace Narration.Config

/-- What a layer says about the value at a path. -/
inductive Told where
  | nothing
  /-- There is none: something else than a table stands on the way, or did and was replaced. -/
  | dropped
  | value (value : Value)

namespace Told

/-- What is told, and below it where nothing is. -/
def atop : Told → Told → Told
  | .nothing, below => below
  | told, _ => told

/-- Whether a value can stand where this is told. -/
def Fits (told : Told) (there : Option Value) : Prop :=
  match told with
  | .value own => isBlank (some own) = false ∧ ShowsIn (some own) there
  | .nothing | .dropped => isBlank there = true

end Told

namespace Layer

/-- What the layer says about a path: the value that it has there by itself, or where it has none, that
there is none if it drops what others have. -/
def tells (layer : Layer) (path : List String) : Told :=
  match (Value.table (setOver [] layer)).at? path with
  | none | some (.table []) => if layer.drops path then .dropped else .nothing
  | some value => .value value

/-- What the highest layer says that says anything about the path. The last layer is the highest. -/
def told (layers : List Layer) (path : List String) : Told :=
  layers.foldl (fun below layer => (layer.tells path).atop below) .nothing

variable {layer : Layer} {path : List String}

end Layer

section Arrays

def IsArray (there : Option Value) : Prop := ∃ items, there = some (.array items)

/-- What an effect at a path is further along the path. -/
def Effect.further (rest : List String) : Effect → List Effect
  | .drop => [.drop]
  | .set value steps => value.effects rest steps

variable {name : String} {path rest : List String}

variable {there other : Option Value} {effect : Effect} {effects : List Effect}

/-- Where an array comes from: it is set, made for an item, or was there already. -/
theorem IsArray.effect_cases (array : IsArray (effect.apply there)) :
    (∃ items, effect = .set (.array items) []) ∨
      (∃ value position steps, effect = .set value (.position position :: steps)) ∨
      effect = .set (.table []) [] ∧ IsArray there := by
  obtain ⟨items, array⟩ := array
  cases effect with
  | drop => cases array
  | set value steps =>
      cases steps with
      | nil =>
          cases value with
          | table entries =>
              cases entries with
              | nil =>
                  cases there with
                  | none => cases array
                  | some value => exact .inr (.inr ⟨rfl, items, array⟩)
              | cons entry rest => cases array
          | array own => exact .inl ⟨own, rfl⟩
          | _ => cases array
      | cons step steps =>
          cases step with
          | name first => cases array
          | position position => exact .inr (.inl ⟨value, position, steps, rfl⟩)

/-- Over an array an effect leaves an array wherever it leaves one over another value. -/
theorem IsArray.apply (more : IsArray there → IsArray other) (effect : Effect)
    (array : IsArray (effect.apply there)) : IsArray (effect.apply other) := by
  rcases array.effect_cases with ⟨items, rfl⟩ | ⟨value, position, steps, rfl⟩ | ⟨rfl, before⟩
  · exact ⟨items, rfl⟩
  · exact ⟨_, rfl⟩
  · obtain ⟨items, rfl⟩ := more before
    exact ⟨items, rfl⟩

theorem IsArray.run (more : IsArray there → IsArray other) (effects : List Effect)
    (array : IsArray (Effect.run effects there)) : IsArray (Effect.run effects other) := by
  induction effects generalizing there other with
  | nil => exact more array
  | cons effect effects ih => exact ih (IsArray.apply more effect) array

end Arrays

end Narration.Config
