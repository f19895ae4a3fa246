/-! Byte offsets in texts. -/
namespace Narration.Text

/-- `s` without its first `count` bytes, if a character starts behind them. -/
def dropBytes? (count : Nat) : List Char → Option (List Char)
  | [] => if count = 0 then some [] else none
  | c :: rest =>
    if count = 0 then some (c :: rest)
    else if c.utf8Size ≤ count then dropBytes? (count - c.utf8Size) rest
    else none

/-- The first `count` bytes of `s`, if a character ends there. -/
def takeBytes? (count : Nat) : List Char → Option (List Char)
  | [] => if count = 0 then some [] else none
  | c :: rest =>
    if count = 0 then some []
    else if c.utf8Size ≤ count then (takeBytes? (count - c.utf8Size) rest).map (c :: ·)
    else none

/-- The bytes from `first` to `last`, if both lie between characters in this order. -/
def slice? (s : String) (first last : Nat) : Option String := do
  if last < first then none
  else
    let tail ← dropBytes? first s.toList
    return String.ofList (← takeBytes? (last - first) tail)

end Narration.Text
