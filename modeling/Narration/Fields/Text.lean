import Narration.Fields.Name
/-! The text that an object displays. -/
namespace Narration.Fields

variable {ω : Type}

/-- Stands in a text where another object is embedded. -/
def embeddedObject : Char := '\ufffc'

/-- A text in which nothing is embedded. -/
def plainText (value : Option String) : List Fragment :=
  textOf (value.filter fun value => !value.toList.contains embeddedObject)

/-- The sub-range of the context. -/
def substring : Provider ω := fun target invocation => do
  match invocation.context.range? with
  | none => return []
  | some (first, last) =>
    match invocation.context.string with
    | some string => return plainText (some string)
    | none => return plainText (← ask (invocation.objects.substring · target first last))

/-- The sub-range, or else everything displayed. -/
def displayedText : Provider ω := fun target invocation => do
  let substring ← substring target invocation
  if !substring.isEmpty then return substring
  return textOf (← ask (invocation.objects.displayedText · target))

/-- The sub-range, or else the line at the caret. -/
def currentLineText : Provider ω := fun target invocation => do
  let substring ← substring target invocation
  if !substring.isEmpty then return substring
  return plainText (← ask (invocation.objects.lineAtCaret · target))

end Narration.Fields
