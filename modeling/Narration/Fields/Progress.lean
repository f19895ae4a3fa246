import Narration.Fields.Name
/-! Values and progress indicators. -/
namespace Narration.Fields

variable {ω : Type}

def value : Provider ω := fun target invocation => do
  return textOf (← ask (invocation.objects.valueText · target))

def percentage (percent : UInt32) : String := toString percent.toNat ++ " percent"

/-- The percentage; among the updates of an indicator only those that the tracker allows. -/
def progressBarValue : Provider ω := fun target invocation => do
  match ← ask (invocation.objects.percent · target) with
  | none => return []
  | some percent =>
    if invocation.context.isProgressUpdate then
      if !(← invocation.objects.shouldPresent target percent) then return []
    return [.text (percentage percent)]

def numbered (number count : Nat) : String :=
  "progress bar " ++ toString number ++ " of " ++ toString count

/-- Which indicator is updated, where there are several. -/
def progressBarIndex : Provider ω := fun target invocation => do
  if !invocation.context.isProgressUpdate then return []
  let (number, count) ← invocation.objects.numberAndCount target
  if count < 2 then return []
  return [.text (numbered number count)]

end Narration.Fields
