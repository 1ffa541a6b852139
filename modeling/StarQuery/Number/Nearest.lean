import StarQuery.Number.Double

/-!
The double nearest to a fraction. A tie goes to the even neighbour, and what lies beyond the largest
finite double by half a step or more becomes infinite.
-/
namespace StarQuery

def roundHalfEven (num den : Nat) : Nat :=
  let whole := num / den
  let twice := 2 * (num % den)
  if twice < den then whole
  else if den < twice then whole + 1
  else whole + whole % 2

def twoPowerAtMost (e : Int) (num den : Nat) : Bool :=
  den * Nat.pow 2 e.toNat ≤ num * Nat.pow 2 (-e).toNat

def binaryExponent (num den : Nat) : Int :=
  let guess : Int := num.log2 - den.log2
  if twoPowerAtMost guess num den then guess else guess - 1

namespace Double

def infinityBits : Nat := 2047 * fractionSize

/-- A quotient of `2 ^ 52` or more carries into the exponent by plain addition, so one sum serves
subnormal numbers, normal ones and those that round up to the next power of two. -/
def nearest (negative : Bool) (num den : Nat) : Double :=
  if num = 0 then withSign negative 0
  else
    let e := max (binaryExponent num den - 52) (-1074)
    let quotient := roundHalfEven (num * Nat.pow 2 (-e).toNat) (den * Nat.pow 2 e.toNat)
    withSign negative (min ((e + 1074).toNat * fractionSize + quotient) infinityBits)

def ofInt (n : Int) : Double := nearest (n < 0) n.natAbs 1

/-- The nearest double to `coefficient * 10 ^ exponent`. A number whose first digit stands more than
four hundred places from the point is out of range whatever its digits. -/
def ofDecimal (negative : Bool) (coefficient : Nat) (exponent : Int) : Double :=
  let leading : Int := (Nat.toDigits 10 coefficient).length + exponent
  if coefficient = 0 ∨ leading < -400 then withSign negative 0
  else if 400 < leading then withSign negative infinityBits
  else nearest negative (coefficient * Nat.pow 10 exponent.toNat) (Nat.pow 10 (-exponent).toNat)

def mul (x y : Double) : Double :=
  let (a, b) := x.ratio
  let (c, d) := y.ratio
  nearest (x.negative != y.negative) (a * c) (b * d)

def div (x y : Double) : Double :=
  let (a, b) := x.ratio
  let (c, d) := y.ratio
  nearest (x.negative != y.negative) (a * d) (b * c)

def neg (x : Double) : Double := withSign (!x.negative) (x.bits.toNat % signWeight)

end Double

end StarQuery
