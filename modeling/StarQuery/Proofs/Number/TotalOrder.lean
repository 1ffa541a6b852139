import Mathlib.Algebra.Group.Nat.Defs
import StarQuery.Number.Double

/-!
The total order of doubles by their sign-adjusted bits, which are signed words. Main statement: the
order of these words is that of the doubles.
-/
namespace StarQuery.Double

/-- The bits as a signed word, in which all bits but the sign are flipped if that is set: an
arithmetic shift spreads the sign, and a logical one spares the sign's own place. -/
def signAdjusted (x : Double) : Int64 :=
  let word := x.bits.toInt64
  word ^^^ ((word >>> 63).toUInt64 >>> 1).toInt64

theorem flip_magnitude {f n : Nat} (small : f < 2 ^ n) :
    (2 ^ n + f) ^^^ (2 ^ n - 1) = 2 ^ n + (2 ^ n - (f + 1)) := by
  apply Nat.eq_of_testBit_eq
  intro i
  rw [Nat.testBit_xor, Nat.testBit_two_pow_sub_one]
  rcases Nat.lt_trichotomy i n with below | rfl | above
  · rw [Nat.testBit_two_pow_add_gt below, Nat.testBit_two_pow_add_gt below,
      Nat.testBit_two_pow_sub_succ small]
    simp [below]
  · rw [Nat.testBit_two_pow_add_eq, Nat.testBit_two_pow_add_eq, Nat.testBit_two_pow_sub_succ small]
    simp [Nat.testBit_lt_two_pow small]
  · have double : 2 ^ (n + 1) ≤ 2 ^ i := Nat.pow_le_pow_right Nat.two_pos above
    rw [Nat.testBit_lt_two_pow (by omega), Nat.testBit_lt_two_pow (by omega)]
    simp [Nat.le_of_lt above]

theorem toBitVec_signAdjusted (x : Double) :
    x.signAdjusted.toBitVec =
      x.bits.toBitVec ^^^ (x.bits.toBitVec.sshiftRight 63 >>> 1) := rfl

theorem toNat_spread (b : BitVec 64) :
    (b.sshiftRight 63 >>> 1).toNat = if b.toNat < signWeight then 0 else signWeight - 1 := by
  have bound := b.isLt
  have weight : signWeight = 2 ^ 63 := rfl
  rw [weight]
  cases sign : b.msb with
  | false =>
    have low : b.toNat < 2 ^ 63 := by simpa [BitVec.msb_eq_decide] using sign
    rw [BitVec.sshiftRight_eq_of_msb_false sign, if_pos low]
    simp [Nat.shiftRight_eq_div_pow]
    omega
  | true =>
    have high : 2 ^ 63 ≤ b.toNat := by simpa [BitVec.msb_eq_decide] using sign
    rw [BitVec.sshiftRight_eq_of_msb_true sign, if_neg (Nat.not_lt.mpr high)]
    simp [Nat.shiftRight_eq_div_pow]
    omega

theorem toInt_signAdjusted (x : Double) : x.signAdjusted.toInt = x.rank := by
  have bound := x.bits.toNat_lt
  rw [← Int64.toInt_toBitVec, toBitVec_signAdjusted, BitVec.toInt_eq_toNat_cond,
    BitVec.toNat_xor, toNat_spread, UInt64.toNat_toBitVec, rank]
  by_cases positive : x.bits.toNat < signWeight
  · rw [if_pos positive, if_pos positive, Nat.xor_zero]
    unfold signWeight at positive
    omega
  · rw [if_neg positive, if_neg positive]
    obtain ⟨f, magnitude⟩ := Nat.exists_eq_add_of_le (Nat.le_of_not_lt positive)
    have weight : signWeight = 2 ^ 63 := rfl
    rw [weight] at magnitude ⊢
    have small : f < 2 ^ 63 := by omega
    rw [magnitude, flip_magnitude small, if_neg (by omega)]
    omega

/-- The total order is that of the sign-adjusted bits. -/
theorem totalCompare_eq (x y : Double) :
    x.totalCompare y = compare x.signAdjusted y.signAdjusted := by
  simp only [totalCompare, ← toInt_signAdjusted, compare, compareOfLessAndEq, Int64.lt_iff_toInt_lt,
    Int64.toInt_inj]

end StarQuery.Double
