/-! Numbers in binary with 53 significant bits: rounding of decimals, and the shortest decimal that
rounds back. -/
namespace Narration

/-- A finite number is `significand * 2 ^ exponent`, with a sign of its own. -/
inductive Double where
  | finite (negative : Bool) (significand : Nat) (exponent : Int)
  | infinite (negative : Bool)
  | nan
  deriving DecidableEq, Repr

namespace Double

/-- `numerator / denominator` rounded to the nearest whole number, a half to the even one. -/
def divNearest (numerator denominator : Nat) : Nat :=
  let quotient := numerator / denominator
  let twice := 2 * (numerator % denominator)
  if twice < denominator then quotient
  else if denominator < twice then quotient + 1
  else quotient + quotient % 2

/-- `base ^ exponent` for exponents that are not negative, else one. -/
def power (base : Nat) (exponent : Int) : Nat := base.pow exponent.toNat

/-- The exponent of the power of two below a fraction that is not zero, or equal to it. -/
def floorLog2 (numerator denominator : Nat) : Int :=
  let guess : Int := numerator.log2 - denominator.log2
  if denominator * power 2 guess ≤ numerator * power 2 (-guess) then guess else guess - 1

def ofFraction (negative : Bool) (numerator denominator : Nat) : Double :=
  if numerator = 0 then .finite negative 0 0
  else
    let exponent := max (floorLog2 numerator denominator - 52) (-1074)
    let significand := divNearest (numerator * power 2 (-exponent)) (denominator * power 2 exponent)
    let (significand, exponent) :=
      if significand = power 2 53 then (power 2 52, exponent + 1) else (significand, exponent)
    if 971 < exponent then .infinite negative else .finite negative significand exponent

/-- `digits * 10 ^ scale`; beyond a magnitude of 400 places every number is infinite or zero. -/
def ofDecimal (negative : Bool) (digits : Nat) (scale : Int) : Double :=
  let places : Int := (Nat.toDigits 10 digits).length + scale
  if digits = 0 || places < -400 then .finite negative 0 0
  else if 400 < places then .infinite negative
  else ofFraction negative (digits * power 10 scale) (power 10 (-scale))

/-- The decimals that round to `significand * 2 ^ exponent` reach half a step to both sides, a
quarter step down to a power of two. Among the multiples of `10 ^ scale` in this interval, the one
nearest to the number, and the larger of two that are as near. -/
def multipleIn? (significand : Nat) (exponent scale : Int) : Option Nat :=
  let unit := power 2 (exponent - 2) * power 10 (-scale)
  let step := power 10 scale * power 2 (2 - exponent)
  let value := 4 * significand * unit
  let low := value - (if significand = power 2 52 && -1074 < exponent then 1 else 2) * unit
  let high := value + 2 * unit
  let inside (multiple : Nat) : Bool :=
    let point := multiple * step
    multiple ≠ 0 &&
      (if significand % 2 = 0 then low ≤ point && point ≤ high else low < point && point < high)
  let below := value / step
  match inside below, inside (below + 1) with
  | true, true =>
    some (if 2 * (value - below * step) < step then below else below + 1)
  | true, false => some below
  | false, true => some (below + 1)
  | false, false => none

/-- Digits and scale of the coarsest decimal that rounds to the number. -/
def shortest (significand : Nat) (exponent : Int) : Nat × Int :=
  let scales := (List.range 660).map fun k : Nat => (310 : Int) - k
  (scales.findSome? fun scale =>
    (multipleIn? significand exponent scale).map (·, scale)).getD (0, 0)

/-- Positional notation, without an exponent. -/
def positional (digits : Nat) (scale : Int) : List Char :=
  let shown := Nat.toDigits 10 digits
  if 0 ≤ scale then shown ++ List.replicate scale.toNat '0'
  else
    let places := (-scale).toNat
    let padded := List.replicate (places + 1 - shown.length) '0' ++ shown
    padded.take (padded.length - places) ++ '.' :: padded.drop (padded.length - places)

def display : Double → String
  | .nan => "NaN"
  | .infinite negative => if negative then "-inf" else "inf"
  | .finite negative significand exponent =>
    let digits :=
      if significand = 0 then ['0']
      else
        let (digits, scale) := shortest significand exponent
        positional digits scale
    String.ofList (if negative then '-' :: digits else digits)

def isZero : Double → Bool
  | .finite _ significand _ => significand = 0
  | _ => false

/-- The nearest whole number, a half away from zero, held between zero and `limit`. -/
def roundBelow (limit : Nat) : Double → Nat
  | .nan => 0
  | .infinite negative => if negative then 0 else limit
  | .finite negative significand exponent =>
    if negative then 0
    else
      let numerator := significand * power 2 exponent
      let denominator := power 2 (-exponent)
      min limit ((2 * numerator + denominator) / (2 * denominator))

end Double
end Narration
