import Narration.Fields.Name
import Narration.Text.Lowercase
/-! The description of an object, where it says something new. -/
namespace Narration.Fields

variable {ω : Type}

/-- Whether a description may be added to what `expression` says with a label and a name; all three
texts are in lower case. -/
def addsTo (expression : Expr) (label name description : String) : Bool :=
  if expression.mentions "labelAndName" then
    !Text.occursIn description name && !Text.occursIn description label
  else if expression.mentions "labelOrName" && label ≠ "" then !Text.occursIn description label
  else if expression.mentions "labelOrName" && name ≠ "" then !Text.occursIn description name
  else true

/-- The description, unless it stood in for something before or repeats the label or the name. -/
def description : Provider ω := fun target invocation => do
  let objects := invocation.objects
  if (← getFallbacks).descriptionUsed then return []
  if invocation.category = .label then return []
  let some description := (← ask (objects.description · target)).filter (· ≠ "") | return []
  let name ←
    if invocation.category = .icon then ask (objects.displayedText · target)
    else ask (objects.name · target)
  let label ← ask (objects.label · target)
  let expression := invocation.formatExpression.getD .empty
  if addsTo expression (Text.lowercase (label.getD "")) (Text.lowercase (name.getD ""))
      (Text.lowercase description) then
    return [.text description]
  return []

/-- Labels near the object, or else its description. -/
def unrelatedLabelsOrDescription : Provider ω := fun target invocation => do
  let labels ← ask (invocation.objects.unrelatedLabels · target)
  let told := (labels.filter (· ≠ "")).map Fragment.text
  if !told.isEmpty then
    setFallback .unrelatedLabels false
    return told
  let description ← description target invocation
  if !description.isEmpty then setFallback .unrelatedLabels true
  return description

end Narration.Fields
