import Narration.Double
/-! Values of a TOML document, and how its statements build tables. -/
namespace Narration.Toml

/-- How a table came to be, which decides what may be added to it. -/
inductive TableKind where
  /-- Only named on the way to a table with a header of its own. -/
  | passed
  /-- Opened by a dotted key. -/
  | dotted
  /-- Opened by its header. -/
  | headed
  /-- Written as a value. -/
  | inline
  deriving DecidableEq, Repr

inductive Value where
  | string (value : String)
  | integer (value : Int)
  | float (value : Double)
  | boolean (value : Bool)
  /-- A date, a time or both, in the standard form. -/
  | datetime (text : String)
  | array (items : List Value)
  /-- The tables of repeated headers. -/
  | tables (items : List (List (String × Value)))
  | table (kind : TableKind) (entries : List (String × Value))
  deriving Repr

/-- Integers have 64 bits. -/
def fitsInteger (value : Int) : Bool :=
  -9223372036854775808 ≤ value && value < 9223372036854775808

abbrev Entries := List (String × Value)

/-- The only name in a date or time where it stands for a table. -/
def datetimeName : String := "$__toml_private_datetime"

def Value.string? : Value → Option String
  | .string value => some value
  | _ => none

namespace Entries

def put (key : String) (value : Value) : Entries → Entries
  | [] => [(key, value)]
  | entry :: rest => if entry.1 = key then (key, value) :: rest else entry :: put key value rest

/-- Changes the last of several tables. -/
def changeLast (change : Entries → Option Entries) : List Entries → Option (List Entries)
  | [] => none
  | [last] => (change last).map fun last => [last]
  | first :: rest => (changeLast change rest).map (first :: ·)

/-- Changes the table that a header leads to. Tables on the way are opened as needed, and of
repeated tables the last one is meant. -/
def descend (change : Entries → Option Entries) : List String → Entries → Option Entries
  | [], entries => change entries
  | key :: path, entries =>
    match entries.lookup key with
    | none => (descend change path []).map fun inner => entries ++ [(key, .table .passed inner)]
    | some (.table .inline _) => none
    | some (.table kind inner) =>
      (descend change path inner).map fun inner => put key (.table kind inner) entries
    | some (.tables items) =>
      (changeLast (descend change path) items).map fun items => put key (.tables items) entries
    | some _ => none

/-- Adds a value under a key in the table that the path of a dotted key leads to. The last table of
the path has to be one that dotted keys have opened, and none may have a header. -/
def assign (key : String) (value : Value) : List String → Entries → Option Entries
  | [], entries => if (entries.lookup key).isSome then none else some (entries ++ [(key, value)])
  | step :: path, entries =>
    match entries.lookup step with
    | none => (assign key value path []).map fun inner => entries ++ [(step, .table .dotted inner)]
    | some (.table kind inner) =>
      if kind = .dotted || (kind = .passed && !path.isEmpty) then
        (assign key value path inner).map fun inner => put step (.table kind inner) entries
      else none
    | some (.tables items) =>
      if path.isEmpty then none
      else (changeLast (assign key value path) items).map fun items => put step (.tables items) entries
    | some _ => none

/-- Opens the table of a header, which may have been passed but not opened before. It is the last
one then. -/
def openTable (key : String) (entries : Entries) : Option Entries :=
  match entries.lookup key with
  | none => some (entries ++ [(key, .table .headed [])])
  | some (.table .passed inner) =>
    some (entries.filter (·.1 ≠ key) ++ [(key, .table .headed inner)])
  | some _ => none

/-- Opens one more table of a repeated header. -/
def openRepeated (key : String) (entries : Entries) : Option Entries :=
  match entries.lookup key with
  | none => some (entries ++ [(key, .tables [[]])])
  | some (.tables items) => some (put key (.tables (items ++ [[]])) entries)
  | some _ => none

end Entries

/-- A key or header is the path to a table and a name in it. -/
structure Key where
  path : List String
  name : String
  deriving Repr

inductive Statement where
  | header (key : Key)
  | repeatedHeader (key : Key)
  | assignment (key : Key) (value : Value)
  deriving Repr

namespace Statement

/-- The entries of a document with the path of the header that is in force. -/
structure Progress where
  entries : Entries
  here : List String

def apply (progress : Progress) : Statement → Option Progress
  | .header key =>
    (Entries.descend (Entries.openTable key.name) key.path progress.entries).map
      (⟨·, key.path ++ [key.name]⟩)
  | .repeatedHeader key =>
    (Entries.descend (Entries.openRepeated key.name) key.path progress.entries).map
      (⟨·, key.path ++ [key.name]⟩)
  | .assignment key value =>
    (Entries.descend (Entries.assign key.name value key.path) progress.here progress.entries).map
      (⟨·, progress.here⟩)

end Statement

/-- The entries that statements build, if they fit together. -/
def build (statements : List Statement) : Option Entries :=
  (statements.foldlM Statement.apply ⟨[], []⟩).map Statement.Progress.entries

/-- The entries of a table that is written as a value. -/
def buildInline (assignments : List (Key × Value)) : Option Entries :=
  assignments.foldlM (fun entries assignment =>
    Entries.assign assignment.1.name assignment.2 assignment.1.path entries) []

end Narration.Toml
