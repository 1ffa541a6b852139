/-!
Binary floating point numbers of double width, held as their 64 bits so that every comparison is
one of numbers and none depends on the machine. Main statements: the total order is the order of
`rank`, and `rank` tells any two bit patterns apart.
-/
namespace StarQuery

structure Double where
  bits : UInt64
  deriving DecidableEq, Hashable

namespace Double

def signWeight : Nat := 0x8000000000000000

def fractionSize : Nat := 0x10000000000000

def negative (x : Double) : Bool := signWeight ≤ x.bits.toNat

def exponentField (x : Double) : Nat := x.bits.toNat / fractionSize % 2048

def fraction (x : Double) : Nat := x.bits.toNat % fractionSize

def isFinite (x : Double) : Bool := x.exponentField != 2047

def isNaN (x : Double) : Bool := !x.isFinite && x.fraction != 0

def isZero (x : Double) : Bool := x.exponentField == 0 && x.fraction == 0

def significand (x : Double) : Nat :=
  if x.exponentField = 0 then x.fraction else fractionSize + x.fraction

def exponent (x : Double) : Int := (max x.exponentField 1 : Nat) - 1075

def ratio (x : Double) : Nat × Nat :=
  if 0 ≤ x.exponent then (x.significand * Nat.pow 2 x.exponent.toNat, 1)
  else (x.significand, Nat.pow 2 (-x.exponent).toNat)

def withSign (negative : Bool) (magnitudeBits : Nat) : Double :=
  ⟨UInt64.ofNat ((if negative then signWeight else 0) + magnitudeBits)⟩

/-- The place of a double in the total order: the bits as a number, and those with the sign bit
reflected below zero. -/
def rank (x : Double) : Int :=
  if x.bits.toNat < signWeight then x.bits.toNat else signWeight - 1 - (x.bits.toNat : Int)

/-- Negative NaNs first, then the numbers ascending with minus zero before zero, then NaNs. -/
def totalCompare (x y : Double) : Ordering := compare x.rank y.rank

def numericallyEqual (x y : Double) : Bool :=
  !x.isNaN && !y.isNaN && (x == y || (x.isZero && y.isZero))

theorem rank_injective {x y : Double} (h : x.rank = y.rank) : x = y := by
  have hx := x.bits.toNat_lt
  have hy := y.bits.toNat_lt
  have hbits : x.bits.toNat = y.bits.toNat := by
    unfold rank signWeight at h
    split at h <;> split at h <;> omega
  cases x
  cases y
  simpa [UInt64.toNat_inj] using hbits

end Double

end StarQuery
