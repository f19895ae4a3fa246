import Narration.Engine.Invocation
import Narration.Text.Words
/-! What an object is called. -/
namespace Narration.Fields

variable {ω : Type}

/-- One text fragment for a text that has characters. -/
def textOf : Option String → List Fragment
  | some value => if value = "" then [] else [.text value]
  | none => []

def firstText? (fragments : List Fragment) : Option String := fragments.findSome? (·.asText?)

/-- Whether every word of `name` is a word of `label`. -/
def isRedundant (name label : String) : Bool :=
  (Text.words name).all fun word => (Text.words label).contains word

/-- The name, or else the description, which labels do not use. An icon without either takes the
name of the panel that holds it. -/
def name : Provider ω := fun target invocation => do
  let objects := invocation.objects
  setFallback .name false
  let name := textOf (← ask (objects.name · target))
  if !name.isEmpty then return name
  if invocation.category ≠ .label then
    let description := textOf (← ask (objects.description · target))
    if !description.isEmpty then
      setFallback .name true
      return description
  if invocation.category = .icon then
    if let some parent ← ask (objects.parent · target) then
      if (← ask (objects.category · parent)) = some .panel then
        return ← invocation.callOn "name" parent
  return []

def label : Provider ω := fun target invocation => do
  return textOf (← ask (invocation.objects.label · target))

def labelOrName : Provider ω := fun target invocation => do
  let label ← label target invocation
  if !label.isEmpty then return label
  name target invocation

/-- Label, then name; a name that adds no word to the label is left out. -/
def joinLabelAndName (label name : List Fragment) : List Fragment :=
  if label.isEmpty then name
  else if name.isEmpty then label
  else
    match firstText? label, firstText? name with
    | some labelText, some nameText =>
      if isRedundant nameText labelText then label else label ++ name
    | _, _ => label ++ name

/-- Label and name; a table cell without either takes the name of its active descendant. -/
def labelAndName : Provider ω := fun target invocation => do
  let label ← label target invocation
  let mut name ← name target invocation
  if label.isEmpty && name.isEmpty && invocation.category = .tableCell then
    if let some descendant ← ask (invocation.objects.activeDescendant · target) then
      name ← invocation.callOn "name" descendant
  return joinLabelAndName label name

/-- The placeholder among `attributes` that says something else than the name. -/
def placeholderIn (attributes : List (String × String)) (name : Option String) : List Fragment :=
  let told := ["placeholder-text", "placeholder"].filterMap fun key =>
    (attributes.lookup key).filter fun placeholder => placeholder ≠ "" && some placeholder ≠ name
  textOf told.head?

def placeholderText : Provider ω := fun target invocation => do
  let attributes ← ask (invocation.objects.attributes · target)
  let name ← ask (invocation.objects.name · target)
  return placeholderIn attributes name

/-- What users call the effective category, unless it is unknown. -/
def roleName : Provider ω := fun _ invocation => do
  if invocation.category = .unknown then return []
  return textOf (← ask (invocation.objects.roleName · invocation.category))

end Narration.Fields
