import Narration.Toml.Scalar
/-! Reading TOML documents. -/
namespace Narration.Toml

def isBare (c : Char) : Bool :=
  isDigit c || ('a' ≤ c && c ≤ 'z') || ('A' ≤ c && c ≤ 'Z') || c = '_' || c = '-'

def keyName? (s : List Char) : Option (String × List Char) :=
  match s with
  | '"' :: rest => (basicString s.length rest).map fun (name, rest) => (String.ofList name, rest)
  | '\'' :: rest => (literalString rest).map fun (name, rest) => (String.ofList name, rest)
  | _ =>
    let name := s.takeWhile isBare
    if name.isEmpty then none else some (String.ofList name, s.dropWhile isBare)

/-- Names that dots separate. -/
def keyNames : Nat → List Char → Option (List String × List Char)
  | 0, _ => none
  | fuel + 1, s => do
    let (name, rest) ← keyName? s
    match skipSpace rest with
    | '.' :: rest => do
      let (names, rest) ← keyNames fuel (skipSpace rest)
      return (name :: names, rest)
    | rest => return ([name], rest)

/-- Values and keys are nested less than this deep. -/
def nestingLimit : Nat := 80

/-- A key and the text behind it and the spaces that follow. -/
def key? (s : List Char) : Option (Key × List Char) := do
  let (names, rest) ← keyNames nestingLimit s
  if nestingLimit ≤ names.length then none
  else return (⟨names.dropLast, ← names.getLast?⟩, rest)

/-- The text behind a comment, which ends in front of a line break. -/
def skipComment (s : List Char) : List Char :=
  match s with
  | '#' :: rest => rest.dropWhile isPlain
  | _ => s

/-- The text behind the end of a line with nothing but a comment on it. -/
def lineEnd? (s : List Char) : Option (List Char) :=
  match skipComment (skipSpace s) with
  | [] => some []
  | rest => newline? rest

/-- The text behind spaces, comments and line breaks between the items of an array. -/
def skipLines : Nat → List Char → List Char
  | 0, s => s
  | fuel + 1, s =>
    match newline? (skipComment (skipSpace s)) with
    | some rest => skipLines fuel rest
    | none => skipSpace s

mutual

/-- A value that may hold values down to `depth` levels. -/
def value? : Nat → Nat → List Char → Option (Value × List Char)
  | 0, _, _ => none
  | fuel + 1, depth, s =>
    match s with
    | '[' :: rest =>
      if depth = 0 then none
      else (items? fuel (depth - 1) rest).map fun (items, rest) => (.array items, rest)
    | '\x7b' :: rest =>
      if depth = 0 then none
      else do
        let (assignments, rest) ←
          match skipSpace rest with
          | '\x7d' :: rest => some ([], rest)
          | rest => assignments? fuel (depth - 1) rest
        return (.table .inline (← buildInline assignments), rest)
    | _ => scalar? s

/-- The items of an array up to its closing bracket; a comma may stand behind the last one. -/
def items? : Nat → Nat → List Char → Option (List Value × List Char)
  | 0, _, _ => none
  | fuel + 1, depth, s =>
    match skipLines s.length s with
    | ']' :: rest => some ([], rest)
    | s => do
      let (value, rest) ← value? fuel depth s
      match skipLines rest.length rest with
      | ']' :: rest => return ([value], rest)
      | ',' :: rest => do
        let (values, rest) ← items? fuel depth rest
        return (value :: values, rest)
      | _ => none

/-- The assignments of a table up to its closing brace, all on one line. -/
def assignments? : Nat → Nat → List Char → Option (List (Key × Value) × List Char)
  | 0, _, _ => none
  | fuel + 1, depth, s => do
    let (assignment, rest) ← assignment? fuel depth s
    match skipSpace rest with
    | '\x7d' :: rest => return ([assignment], rest)
    | ',' :: rest => do
      let (assignments, rest) ← assignments? fuel depth (skipSpace rest)
      return (assignment :: assignments, rest)
    | _ => none

def assignment? : Nat → Nat → List Char → Option ((Key × Value) × List Char)
  | 0, _, _ => none
  | fuel + 1, depth, s => do
    let (key, rest) ← key? s
    let (value, rest) ← value? fuel depth (skipSpace (← character '=' rest))
    return ((key, value), rest)

end

/-- The header of a table, with the text behind its closing bracket. -/
def header? (s : List Char) : Option (Statement × List Char) :=
  match s with
  | '[' :: '[' :: rest => do
    let (key, rest) ← key? (skipSpace rest)
    return (.repeatedHeader key, ← after? "]]" rest)
  | '[' :: rest => do
    let (key, rest) ← key? (skipSpace rest)
    return (.header key, ← character ']' rest)
  | _ => none

/-- One statement. Every nested part of a value reads a character or hands one on, so twice the
length of the text is fuel enough. -/
def statement? (s : List Char) : Option (Statement × List Char) :=
  match s with
  | '[' :: _ => header? s
  | _ =>
    (assignment? (2 * s.length + 2) (nestingLimit - 1) s).map fun ((key, value), rest) =>
      (.assignment key value, rest)

/-- The statements of a text, each on lines of its own. -/
def statements? : Nat → List Char → Option (List Statement)
  | 0, _ => none
  | fuel + 1, s =>
    match lineEnd? s with
    | some [] => some []
    | some rest => statements? fuel rest
    | none => do
      let (statement, rest) ← statement? (skipSpace s)
      match ← lineEnd? rest with
      | [] => return [statement]
      | rest => return statement :: (← statements? fuel rest)

/-- The entries of a document; a byte order mark in front of it is ignored. -/
def parse (source : String) : Option Entries := do
  let s := source.toList
  let s := match s with
    | '\ufeff' :: rest => rest
    | _ => s
  build (← statements? (s.length + 1) s)

end Narration.Toml
