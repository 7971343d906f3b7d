import MultiDispatch.Decimal.Binary64

/-! The shortest decimal that reads back as a given number. The decimals that do form an interval
around it, with its ends if the mantissa is even; the shortest ones lie on the coarsest decimal grid
that meets the interval, and of those the nearest is taken. -/
namespace MultiDispatch.Decimal

/-- `coefficient * 10 ^ exponent`. -/
structure Scientific where
  coefficient : Nat
  exponent : Int
deriving DecidableEq

/-- The point of the grid of multiples of `10 ^ grid` that reads back as `mantissa * 2 ^ exponent`
and is nearest to it, if there is one. Of two points equally near the greater is taken. -/
def nearestOn (mantissa : Nat) (exponent grid : Int) : Option Nat :=
  -- All lengths are in quarters of the distance to the next greater number.
  let below := if mantissa = leastNormal ∧ -1074 < exponent then 1 else 2
  let (unit, one) := scaled 2 1 1 (2 - exponent)
  let (unit, one) := scaled 10 unit one grid
  let value := 4 * mantissa * unit
  let least := (4 * mantissa - below) * unit
  let greatest := (4 * mantissa + 2) * unit
  let reads (point : Nat) : Bool :=
    if mantissa % 2 = 0 then least ≤ point * one ∧ point * one ≤ greatest
    else least < point * one ∧ point * one < greatest
  let point := value / one
  match reads point, reads (point + 1) with
  | true, true =>
    if 2 * (value - point * one) < one then some point else some (point + 1)
  | true, false => some point
  | false, true => some (point + 1)
  | false, false => none

/-- Grids from the coarsest that any number needs to the finest. -/
def grids : List Int := (List.range 640).map fun (i : Nat) => 309 - (i : Int)

def shortest (mantissa : Nat) (exponent : Int) : Scientific :=
  (grids.findSome? fun grid => (nearestOn mantissa exponent grid).map (⟨·, grid⟩)).getD ⟨0, 0⟩

/-- All digits written out, with a point and at least one digit on either side of it. -/
def Scientific.positional (x : Scientific) : List Char :=
  let digits := Nat.toDigits 10 x.coefficient
  let whole := digits ++ List.replicate x.exponent.toNat '0'
  let places := (-x.exponent).toNat
  if places = 0 then whole ++ ['.', '0']
  else
    let padded := List.replicate (places + 1 - digits.length) '0' ++ digits
    let split := padded.length - places
    padded.take split ++ '.' :: padded.drop split

/-- The shortest digits that read back, never in exponent form. -/
def Binary64.render : Binary64 → String
  | finite negative mantissa exponent =>
    let digits := if mantissa = 0 then ['0', '.', '0']
      else (shortest mantissa exponent).positional
    String.ofList (if negative then '-' :: digits else digits)
  | infinite negative => if negative then "-inf" else "inf"
  | nan => "NaN"

end MultiDispatch.Decimal
