import Narration.Fields.Name
/-! What the objects around the target say. -/
namespace Narration.Fields

variable {ω : Type}

def applicationName : Provider ω := fun target invocation => do
  match ← ask (invocation.objects.application · target) with
  | none => return []
  | some application => return textOf (← ask (invocation.objects.name · application))

/-- Climbs from `current`, which has not been looked at, to the first panel that has a label or a
name. Each object is looked at once, so no climb has more steps than there are targets. -/
def climb (invocation : Invocation ω) :
    Nat → List Target → Option Target → Action (State ω) (List Fragment)
  | 0, _, _ | _, _, none => return []
  | steps + 1, visited, some current => do
    if visited.contains current then return []
    if (← ask (invocation.objects.category · current)) = some .panel then
      let label ← invocation.callOn "labelAndName" current
      if !label.isEmpty then return label
    climb invocation steps (current :: visited) (← ask (invocation.objects.parent · current))

/-- Label and name of the nearest panel around the target that has either. -/
def namedContainingPanel : Provider ω := fun target invocation => do
  climb invocation (UInt32.size + 1) [] (← ask (invocation.objects.parent · target))

/-- The active descendant, or else the target itself. -/
def realActiveDescendant (target : Target) (invocation : Invocation ω) :
    Action (State ω) Target := do
  return (← ask (invocation.objects.activeDescendant · target)).getD target

def realActiveDescendantDisplayedText : Provider ω := fun target invocation => do
  invocation.callOn "displayedText" (← realActiveDescendant target invocation)

/-- The role name of the active descendant, under its own category. -/
def realActiveDescendantRoleName : Provider ω := fun target invocation => do
  let descendant ← realActiveDescendant target invocation
  let category := (← ask (invocation.objects.category · descendant)).getD .unknown
  invocation.callWith "roleName" descendant (invocation.context.withRole category)

/-- The presentation of the active descendant. -/
def activeDescendant : Provider ω := fun target invocation => do
  match ← ask (invocation.objects.activeDescendant · target) with
  | none => return []
  | some descendant =>
    if descendant = target then return []
    let resolution ← invocation.host.resolve descendant invocation.context.withoutRole
    return resolution.fragments

end Narration.Fields
