import Narration.Format
/-! The queries that the engine puts to the tree of objects. -/
namespace Narration

/-- Identity of an object. -/
abbrev Target := UInt32

/-- The answer of a query, or why it broke down. -/
abbrev Query (α : Type) := Except String α

/-- How a world of type `ω` answers queries. Only validity and category have to be answered. -/
structure ObjectModel (ω : Type) where
  /-- Dead objects are never presented. -/
  isValid : ω → Target → Query Bool
  category : ω → Target → Query (Option Category)
  name : ω → Target → Query (Option String) := fun _ _ => .ok none
  description : ω → Target → Query (Option String) := fun _ _ => .ok none
  /-- The text of a label that belongs to the object. -/
  label : ω → Target → Query (Option String) := fun _ _ => .ok none
  displayedText : ω → Target → Query (Option String) := fun _ _ => .ok none
  /-- Labels near the object that belong to no object. -/
  unrelatedLabels : ω → Target → Query (List String) := fun _ _ => .ok []
  attributes : ω → Target → Query (List (String × String)) := fun _ _ => .ok []
  parent : ω → Target → Query (Option Target) := fun _ _ => .ok none
  application : ω → Target → Query (Option Target) := fun _ _ => .ok none
  /-- The descendant that has the focus in place of its container. -/
  activeDescendant : ω → Target → Query (Option Target) := fun _ _ => .ok none
  /-- The bytes of the displayed text between two offsets. -/
  substring : ω → Target → UInt64 → UInt64 → Query (Option String) := fun _ _ _ _ => .ok none
  lineAtCaret : ω → Target → Query (Option String) := fun _ _ => .ok none
  valueText : ω → Target → Query (Option String) := fun _ _ => .ok none
  percent : ω → Target → Query (Option UInt32) := fun _ _ => .ok none
  /-- What users call a category. -/
  roleName : ω → Category → Query (Option String) := fun _ _ => .ok none

/-- Answers for a world that contains another one. -/
def ObjectModel.within {ω ω' : Type} (part : ω' → ω) (model : ObjectModel ω) : ObjectModel ω' where
  isValid world := model.isValid (part world)
  category world := model.category (part world)
  name world := model.name (part world)
  description world := model.description (part world)
  label world := model.label (part world)
  displayedText world := model.displayedText (part world)
  unrelatedLabels world := model.unrelatedLabels (part world)
  attributes world := model.attributes (part world)
  parent world := model.parent (part world)
  application world := model.application (part world)
  activeDescendant world := model.activeDescendant (part world)
  substring world := model.substring (part world)
  lineAtCaret world := model.lineAtCaret (part world)
  valueText world := model.valueText (part world)
  percent world := model.percent (part world)
  roleName world := model.roleName (part world)

end Narration
