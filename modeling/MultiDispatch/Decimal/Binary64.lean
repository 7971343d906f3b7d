/-! Binary floating-point numbers of 64 bits, held exactly: a finite one is a natural number below
2 ^ 53 times a power of two. Main operation: the number nearest to a given decimal. -/
namespace MultiDispatch.Decimal

inductive Binary64 where
  /-- `mantissa * 2 ^ exponent`, with a sign that zero has too. -/
  | finite (negative : Bool) (mantissa : Nat) (exponent : Int)
  | infinite (negative : Bool)
  | nan
deriving DecidableEq

/-- Numerator and denominator of `num / den / base ^ exponent`. -/
def scaled (base num den : Nat) (exponent : Int) : Nat × Nat :=
  if 0 ≤ exponent then (num, den * base.pow exponent.toNat)
  else (num * base.pow (-exponent).toNat, den)

/-- The natural number nearest to a quotient; a half goes to the even neighbour. -/
def roundHalfEven (num den : Nat) : Nat :=
  let below := num / den
  let rest := num % den
  if 2 * rest < den then below
  else if den < 2 * rest then below + 1
  else below + below % 2

/-- The least mantissa of full length, which is 2 ^ 52. -/
def leastNormal : Nat := 0x10000000000000

namespace Binary64

def zero (negative : Bool) : Binary64 := finite negative 0 (-1074)

/-- The number nearest to a positive quotient. -/
def ofRatio (negative : Bool) (num den : Nat) : Binary64 :=
  let estimate : Int := num.log2 - den.log2
  let (a, b) := scaled 2 num den estimate
  -- The power of two at or below the quotient.
  let top := if a < b then estimate - 1 else estimate
  let exponent := max (top - 52) (-1074)
  let (a, b) := scaled 2 num den exponent
  let mantissa := roundHalfEven a b
  -- Rounding up to the next power of two moves the exponent.
  let (mantissa, exponent) :=
    if mantissa = 2 * leastNormal then (leastNormal, exponent + 1) else (mantissa, exponent)
  if 971 < exponent then infinite negative else finite negative mantissa exponent

/-- The number nearest to `coefficient * 10 ^ exponent`. Far beyond the range of the format the
power of ten is never computed. -/
def ofDecimal (negative : Bool) (coefficient : Nat) (exponent : Int) : Binary64 :=
  let magnitude := exponent + (Nat.toDigits 10 coefficient).length
  if coefficient = 0 ∨ magnitude < -400 then zero negative
  else if 400 < magnitude then infinite negative
  else
    let (num, den) := scaled 10 coefficient 1 (-exponent)
    ofRatio negative num den

end Binary64

end MultiDispatch.Decimal
