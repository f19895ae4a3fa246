import Narration.Toml.Document
/-! Dates and times that are written as tables: the first entry has a name for this purpose, and its
text is the date or time. -/
namespace Narration.Toml

/-- The distance from universal time at the end of a text, which may be missing. -/
def zoneAtEnd? (s : List Char) : Option String :=
  match s with
  | [] => some ""
  | ['Z'] | ['z'] => some "Z"
  | _ => do
    let (negative, rest) ← signed? s
    let (hours, rest) ← digits? 10 2 rest
    let (minutes, rest) ← digits? 10 2 (← character ':' rest)
    let total := 60 * hours + minutes
    guard (rest.isEmpty && total ≤ 24 * 60)
    return zoneText negative total

/-- A text that is a date, a time, or a date with a time and perhaps a zone, in the standard form. A
day may end in the hour 24. -/
def moment? (text : String) : Option String :=
  let s := text.toList
  match date? s with
  | none => do
    let (time, rest) ← time? 24 s
    guard rest.isEmpty
    return time
  | some (date, []) => some date
  | some (date, c :: rest) => do
    guard (c = 'T' || c = 't' || c = ' ')
    let (time, rest) ← time? 24 rest
    return date ++ "T" ++ time ++ (← zoneAtEnd? rest)

mutual

/-- The value with all such tables turned into the dates and times that they stand for. -/
def Value.withMoments? : Value → Option Value
  | .array items => (arrayWithMoments? items).map .array
  | .tables items => (tablesWithMoments? items).map .array
  | .table kind entries => tableWithMoments? kind entries
  | value => some value

def Value.arrayWithMoments? : List Value → Option (List Value)
  | [] => some []
  | item :: rest => do return (← withMoments? item) :: (← arrayWithMoments? rest)

def Value.tablesWithMoments? : List (List (String × Value)) → Option (List Value)
  | [] => some []
  | entries :: rest => do
    return (← tableWithMoments? .headed entries) :: (← tablesWithMoments? rest)

def Value.tableWithMoments? (kind : TableKind) : List (String × Value) → Option Value
  | [] => some (.table kind [])
  | (name, value) :: rest =>
    if name = datetimeName then (value.string?.bind moment?).map .datetime
    else do return .table kind ((name, ← withMoments? value) :: (← entriesWithMoments? rest))

def Value.entriesWithMoments? : List (String × Value) → Option (List (String × Value))
  | [] => some []
  | (name, value) :: rest => do return (name, ← withMoments? value) :: (← entriesWithMoments? rest)

end

/-- The entries of a document that is not a date or time itself, with such tables turned into dates
and times. -/
def parseWithMoments (source : String) : Option Entries := do
  match ← Value.tableWithMoments? .headed (← parse source) with
  | .table _ entries => some entries
  | _ => none

end Narration.Toml
