import StarQuery.Number.Nearest

/-!
The shortest decimal that reads back as a given double. The numbers that round to a double form an
interval around it; of the grids of multiples of a power of ten, the coarsest one with a point in
that interval gives the digits.
-/
namespace StarQuery

structure Decimal where
  coefficient : Nat
  exponent : Int
  deriving DecidableEq

inductive Tie where
  | up
  | toEven
  deriving DecidableEq

def Decimal.stripped : Nat → Decimal → Decimal
  | 0, d => d
  | fuel + 1, d =>
    if d.coefficient ≠ 0 ∧ d.coefficient % 10 = 0 then
      stripped fuel ⟨d.coefficient / 10, d.exponent + 1⟩
    else d

namespace Double

/-- The multiple of `10 ^ place` that lies in the interval of the finite nonzero double `x`, the
nearer one if there are two. Everything is scaled to whole numbers: `value` is four times the
significand because the ends of the interval are half a step away, or a quarter step below a power
of two. The ends belong to the interval when the significand is even. -/
def gridPoint (tie : Tie) (x : Double) (place : Int) : Option Decimal :=
  let m := x.significand
  let scale := Nat.pow 2 (x.exponent - 2).toNat * Nat.pow 10 (-place).toNat
  let step := Nat.pow 10 place.toNat * Nat.pow 2 (2 - x.exponent).toNat
  let value := 4 * m * scale
  let below := if x.fraction = 0 ∧ 1 < x.exponentField then scale else 2 * scale
  let low := value - below
  let high := value + 2 * scale
  let inside (n : Nat) : Bool := if m % 2 = 0 then low ≤ n && n ≤ high else low < n && n < high
  let floor := value / step
  let ceiling := floor + 1
  let downwards := value - floor * step
  let upwards := ceiling * step - value
  let chosen :=
    if downwards < upwards then floor
    else if upwards < downwards then ceiling
    else match tie with
      | .up => ceiling
      | .toEven => if floor % 2 = 0 then floor else ceiling
  match inside (floor * step), inside (ceiling * step) with
  | true, true => some ⟨chosen, place⟩
  | true, false => some ⟨floor, place⟩
  | false, true => some ⟨ceiling, place⟩
  | false, false => none

def leadingPlace (x : Double) : Int :=
  let (num, den) := x.ratio
  binaryExponent num den * 30103 / 100000 + 1

/-- Seventeen digits tell any two doubles apart, so one of twenty grids has a point. -/
def shortest (tie : Tie) (x : Double) : Decimal :=
  if x.isZero then ⟨0, 0⟩
  else
    let places := (List.range 20).map fun i => x.leadingPlace - (i : Nat)
    ((places.findSome? (x.gridPoint tie)).getD ⟨x.significand, 0⟩).stripped 20

end Double

end StarQuery
