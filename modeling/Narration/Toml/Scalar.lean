import Narration.Toml.Value
/-! Reading strings, numbers, dates and times of TOML documents. A reader takes the text in front of
it and gives what it read with the rest of the text. -/
namespace Narration.Toml

abbrev Reader (α : Type) := List Char → Option (α × List Char)

def isSpace (c : Char) : Bool := c = ' ' || c = '\t'

def skipSpace (s : List Char) : List Char := s.dropWhile isSpace

def isDigit (c : Char) : Bool := '0' ≤ c && c ≤ '9'

/-- No control character except the tab. -/
def isPlain (c : Char) : Bool := c = '\t' || (' ' ≤ c && c ≠ '\x7f')

/-- The text behind `lead`. -/
def after? (lead : String) (s : List Char) : Option (List Char) := lead.toList.isPrefixOf? s

def newline? : List Char → Option (List Char)
  | '\n' :: rest => some rest
  | '\r' :: '\n' :: rest => some rest
  | _ => none

def digitValue? (base : Nat) (c : Char) : Option Nat :=
  let value :=
    if isDigit c then c.toNat - '0'.toNat
    else if 'a' ≤ c && c ≤ 'f' then c.toNat - 'a'.toNat + 10
    else if 'A' ≤ c && c ≤ 'F' then c.toNat - 'A'.toNat + 10
    else base
  if value < base then some value else none

/-- The value of digits, most significant first. -/
def numeral (base : Nat) (digits : List Char) : Nat :=
  digits.foldl (fun total c => total * base + (digitValue? base c).getD 0) 0

/-- Exactly `count` digits. -/
def digits? (base count : Nat) : Reader Nat := fun s =>
  let digits := s.take count
  if digits.length = count && digits.all fun c => (digitValue? base c).isSome then
    some (numeral base digits, s.drop count)
  else none

def character? (code : Nat) : Option Char :=
  if code.isValidChar then some (Char.ofNat code) else none

/-- What stands behind a backslash. -/
def escape? : Reader Char
  | 'b' :: rest => some ('\x08', rest)
  | 't' :: rest => some ('\t', rest)
  | 'n' :: rest => some ('\n', rest)
  | 'f' :: rest => some ('\x0c', rest)
  | 'r' :: rest => some ('\r', rest)
  | '"' :: rest => some ('"', rest)
  | '\\' :: rest => some ('\\', rest)
  | 'u' :: rest => do
    let (code, rest) ← digits? 16 4 rest
    return (← character? code, rest)
  | 'U' :: rest => do
    let (code, rest) ← digits? 16 8 rest
    return (← character? code, rest)
  | _ => none

/-- A string on one line, behind its opening quotation mark. -/
def basicString (fuel : Nat) (s : List Char) : Option (List Char × List Char) :=
  match fuel, s with
  | 0, _ | _, [] => none
  | fuel + 1, c :: rest =>
    if c = '"' then some ([], rest)
    else if c = '\\' then do
      let (c, rest) ← escape? rest
      let (value, rest) ← basicString fuel rest
      return (c :: value, rest)
    else if isPlain c then do
      let (value, rest) ← basicString fuel rest
      return (c :: value, rest)
    else none

/-- A string without escapes on one line, behind its opening apostrophe. -/
def literalString : Reader (List Char)
  | [] => none
  | c :: rest =>
    if c = '\'' then some ([], rest)
    else if isPlain c then (literalString rest).map fun (value, rest) => (c :: value, rest)
    else none

/-- Three quotes end a string of several lines. Up to two more in front of them belong to it. -/
def closing? (quote : Char) (s : List Char) : Option (List Char × List Char) :=
  let run := min 5 (s.takeWhile (· = quote)).length
  if run < 3 then none else some (List.replicate (run - 3) quote, s.drop run)

/-- The text behind spaces and line breaks. -/
def skipBlankLines : List Char → List Char
  | '\n' :: rest => skipBlankLines rest
  | '\r' :: '\n' :: rest => skipBlankLines rest
  | c :: rest => if isSpace c then skipBlankLines rest else c :: rest
  | [] => []

/-- Behind a backslash that ends a line: the text behind all blank lines that follow. -/
def joinedLine? (s : List Char) : Option (List Char) :=
  (newline? (skipSpace s)).map skipBlankLines

/-- A string of several lines behind its opening quotes; only quotation marks allow for escapes. -/
def longString (quote : Char) : Nat → List Char → Option (List Char × List Char)
  | 0, _ | _, [] => none
  | fuel + 1, c :: rest =>
    match closing? quote (c :: rest), newline? (c :: rest) with
    | some closed, _ => some closed
    | none, some rest => do
      let (value, rest) ← longString quote fuel rest
      return ('\n' :: value, rest)
    | none, none =>
      if quote = '"' && c = '\\' then
        match joinedLine? rest with
        | some rest => longString quote fuel rest
        | none => do
          let (c, rest) ← escape? rest
          let (value, rest) ← longString quote fuel rest
          return (c :: value, rest)
      else if isPlain c then do
        let (value, rest) ← longString quote fuel rest
        return (c :: value, rest)
      else none

/-- A line break behind the opening quotes is no part of the string. -/
def longBody (quote : Char) (s : List Char) : Option (List Char × List Char) :=
  let body := (newline? s).getD s
  longString quote (body.length + 1) body

def string? (s : List Char) : Option (String × List Char) := do
  let (value, rest) ←
    match after? "\"\"\"" s, after? "'''" s, s with
    | some rest, _, _ => longBody '"' rest
    | none, some rest, _ => longBody '\'' rest
    | none, none, '"' :: rest => basicString s.length rest
    | none, none, '\'' :: rest => literalString rest
    | none, none, _ => none
  return (String.ofList value, rest)

/-- Digits in groups that single underscores separate. -/
def groupedDigits (base : Nat) : List Char → Option (List Char × List Char)
  | [] => none
  | [c] => if (digitValue? base c).isSome then some ([c], []) else none
  | c :: next :: rest =>
    if (digitValue? base c).isNone then none
    else if next = '_' then
      (groupedDigits base rest).map fun (digits, rest) => (c :: digits, rest)
    else
      match groupedDigits base (next :: rest) with
      | some (digits, rest) => some (c :: digits, rest)
      | none => some ([c], next :: rest)

def sign (s : List Char) : Bool × List Char :=
  match s with
  | '-' :: rest => (true, rest)
  | '+' :: rest => (false, rest)
  | _ => (false, s)

/-- A whole number in decimal notation: its sign and digits, without a zero in front of others. -/
def decimal? (s : List Char) : Option ((Bool × List Char) × List Char) :=
  match sign s with
  | (negative, '0' :: rest) => some ((negative, ['0']), rest)
  | (negative, rest) => (groupedDigits 10 rest).map fun (digits, rest) => ((negative, digits), rest)

def fraction? : Reader (List Char)
  | '.' :: rest => groupedDigits 10 rest
  | _ => none

def exponent? (s : List Char) : Option (Int × List Char) :=
  match s with
  | c :: rest =>
    if c = 'e' || c = 'E' then do
      let (negative, rest) := sign rest
      let (digits, rest) ← groupedDigits 10 rest
      let value : Int := numeral 10 digits
      return (if negative then -value else value, rest)
    else none
  | [] => none

/-- A number with a fraction, an exponent or both, below the largest magnitude. -/
def float? (s : List Char) : Option (Double × List Char) := do
  let ((negative, whole), rest) ← decimal? s
  let (digits, scale, rest) ←
    match fraction? rest, exponent? rest with
    | some (places, rest), _ =>
      match exponent? rest with
      | some (exponent, rest) => some (whole ++ places, exponent - places.length, rest)
      | none => some (whole ++ places, -(places.length : Int), rest)
    | none, some (exponent, rest) => some (whole, exponent, rest)
    | none, none => none
  let value := Double.ofDecimal negative (numeral 10 digits) scale
  if value = .infinite false then none else some (value, rest)

/-- Infinities and the value of no number. -/
def specialFloat? (s : List Char) : Option (Double × List Char) :=
  let (negative, body) := sign s
  match after? "inf" body, after? "nan" body with
  | some rest, _ => some (.infinite negative, rest)
  | none, some rest => some (.nan, rest)
  | none, none => none

def integer? (s : List Char) : Option (Int × List Char) := do
  let (value, rest) ←
    match after? "0x" s, after? "0o" s, after? "0b" s with
    | some rest, _, _ => (groupedDigits 16 rest).map fun (digits, rest) => ((numeral 16 digits : Int), rest)
    | none, some rest, _ => (groupedDigits 8 rest).map fun (digits, rest) => ((numeral 8 digits : Int), rest)
    | none, none, some rest => (groupedDigits 2 rest).map fun (digits, rest) => ((numeral 2 digits : Int), rest)
    | none, none, none =>
      (decimal? s).map fun ((negative, digits), rest) =>
        let value : Int := numeral 10 digits
        (if negative then -value else value, rest)
  if fitsInteger value then some (value, rest) else none

/-- A number of two digits up to `limit`, with its digits. -/
def twoDigits? (limit : Nat) (s : List Char) : Option (Nat × List Char) := do
  let (value, rest) ← digits? 10 2 s
  if value ≤ limit then some (value, rest) else none

def character (c : Char) : List Char → Option (List Char)
  | d :: rest => if c = d then some rest else none
  | [] => none

def isLeapYear (year : Nat) : Bool := year % 4 = 0 && (year % 100 ≠ 0 || year % 400 = 0)

def daysIn (year month : Nat) : Nat :=
  if month = 2 then (if isLeapYear year then 29 else 28)
  else if month = 4 || month = 6 || month = 9 || month = 11 then 30
  else 31

def padded (width value : Nat) : String :=
  let digits := toString value
  String.ofList (List.replicate (width - digits.length) '0') ++ digits

def date? (s : List Char) : Option (String × List Char) := do
  let (year, rest) ← digits? 10 4 s
  let (month, rest) ← twoDigits? 12 (← character '-' rest)
  let (day, rest) ← twoDigits? (daysIn year month) (← character '-' rest)
  if month = 0 || day = 0 then none
  else return (padded 4 year ++ "-" ++ padded 2 month ++ "-" ++ padded 2 day, rest)

/-- A fraction of a second, of which nine places count; zeros at its end are not written. -/
def secondFraction (s : List Char) : String × List Char :=
  match s with
  | '.' :: rest =>
    let digits := rest.takeWhile isDigit
    if digits.isEmpty then ("", s)
    else
      let kept := ((digits.take 9).reverse.dropWhile (· = '0')).reverse
      (if kept.isEmpty then "" else "." ++ String.ofList kept, rest.drop digits.length)
  | _ => ("", s)

/-- A time of day whose hour is at most `lastHour`. -/
def time? (lastHour : Nat) (s : List Char) : Option (String × List Char) := do
  let (hour, rest) ← twoDigits? lastHour s
  let (minute, rest) ← twoDigits? 59 (← character ':' rest)
  let (second, rest) ← twoDigits? 60 (← character ':' rest)
  let (fraction, rest) := secondFraction rest
  return (padded 2 hour ++ ":" ++ padded 2 minute ++ ":" ++ padded 2 second ++ fraction, rest)

/-- A distance from universal time in minutes. -/
def zoneText (negative : Bool) (minutes : Nat) : String :=
  (if negative && minutes ≠ 0 then "-" else "+") ++ padded 2 (minutes / 60) ++ ":" ++
    padded 2 (minutes % 60)

/-- Whether a minus sign stands in front, where a sign is required. -/
def signed? : List Char → Option (Bool × List Char)
  | '-' :: rest => some (true, rest)
  | '+' :: rest => some (false, rest)
  | _ => none

/-- The distance from universal time, if one follows. -/
def zone (s : List Char) : String × List Char :=
  let numeric : Option (String × List Char) := do
    let (negative, rest) ← signed? s
    let (hour, rest) ← twoDigits? 23 rest
    let (minute, rest) ← twoDigits? 59 (← character ':' rest)
    return (zoneText negative (60 * hour + minute), rest)
  match s with
  | 'Z' :: rest | 'z' :: rest => ("Z", rest)
  | _ => numeric.getD ("", s)

/-- A date, a time, or a date with a time and perhaps a zone. -/
def datetime? (s : List Char) : Option (String × List Char) :=
  match date? s with
  | none => time? 23 s
  | some (date, rest) =>
    let timed : Option (String × List Char) := do
      let rest ← match rest with
        | 'T' :: rest | 't' :: rest | ' ' :: rest => some rest
        | _ => none
      let (time, rest) ← time? 23 rest
      let (zone, rest) := zone rest
      return (date ++ "T" ++ time ++ zone, rest)
    some (timed.getD (date, rest))

/-- A value that holds no other values. -/
def scalar? (s : List Char) : Option (Value × List Char) :=
  match string? s with
  | some (value, rest) => some (.string value, rest)
  | none =>
    match after? "true" s, after? "false" s with
    | some rest, _ => some (.boolean true, rest)
    | none, some rest => some (.boolean false, rest)
    | none, none =>
      match datetime? s, float? s, specialFloat? s, integer? s with
      | some (text, rest), _, _, _ => some (.datetime text, rest)
      | none, some (value, rest), _, _ => some (.float value, rest)
      | none, none, some (value, rest), _ => some (.float value, rest)
      | none, none, none, some (value, rest) => some (.integer value, rest)
      | none, none, none, none => none

end Narration.Toml
