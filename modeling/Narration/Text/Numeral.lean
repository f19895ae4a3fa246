import Narration.Double
/-! Numbers written in decimal digits. -/
namespace Narration.Text

def isDigit (c : Char) : Bool := '0' ≤ c && c ≤ '9'

def digitsValue (digits : List Char) : Nat :=
  digits.foldl (fun value c => 10 * value + (c.toNat - '0'.toNat)) 0

def digits? (s : List Char) : Option Nat :=
  if s.isEmpty || !s.all isDigit then none else some (digitsValue s)

/-- Whether a minus sign stands in front, and what follows the sign. -/
def signed : List Char → Bool × List Char
  | '-' :: rest => (true, rest)
  | '+' :: rest => (false, rest)
  | s => (false, s)

/-- A number without a minus sign. -/
def natural? (s : List Char) : Option Nat :=
  match signed s with
  | (true, _) => none
  | (false, digits) => digits? digits

def integer? (s : List Char) : Option Int :=
  match signed s with
  | (true, digits) => (digits? digits).map fun value => -(value : Int)
  | (false, digits) => (digits? digits).map Int.ofNat

/-- The exponent behind a number, which is zero where there is none. -/
def exponent? : List Char → Option Int
  | [] => some 0
  | c :: rest => if c = 'e' || c = 'E' then integer? rest else none

def special? (negative : Bool) (s : List Char) : Option Double :=
  match String.ofList (s.map Char.toLower) with
  | "inf" | "infinity" => some (.infinite negative)
  | "nan" => some .nan
  | _ => none

/-- A number with digits on at least one side of an optional point, and an optional exponent. -/
def double? (s : List Char) : Option Double :=
  let (negative, s) := signed s
  let whole := s.takeWhile isDigit
  let rest := s.dropWhile isDigit
  let (places, rest) :=
    match rest with
    | '.' :: rest => (rest.takeWhile isDigit, rest.dropWhile isDigit)
    | _ => ([], rest)
  if whole.isEmpty && places.isEmpty then special? negative s
  else
    (exponent? rest).map fun exponent =>
      .ofDecimal negative (digitsValue (whole ++ places)) (exponent - places.length)

end Narration.Text
