import Mathlib.Data.Int.Bitwise
import RecordBridge.Guest.Mask

namespace RecordBridge.Guest.Mask

-- A negative number has the places of the mask that its complement lacks.
theorem xor_and (mask k : Nat) : mask ^^^ (k &&& mask) = mask.ldiff k := by
  refine Nat.eq_of_testBit_eq fun place => ?_
  rw [Nat.testBit_xor, Nat.testBit_and, Nat.testBit_ldiff]
  cases mask.testBit place <;> cases k.testBit place <;> rfl

theorem common_land (n : Int) (mask : Nat) : (common n mask : Int) = n.land mask := by
  cases n with
  | ofNat k => rfl
  | negSucc k => exact congrArg Int.ofNat (xor_and mask k)

-- Taking away from all low places is the same as complementing them.
theorem ldiff_low (k width : Nat) : (2 ^ width - 1).ldiff k = 2 ^ width - (k % 2 ^ width + 1) := by
  have below : k % 2 ^ width < 2 ^ width := Nat.mod_lt _ (Nat.two_pow_pos width)
  refine Nat.eq_of_testBit_eq fun place => ?_
  rw [Nat.testBit_ldiff, Nat.testBit_two_pow_sub_one, Nat.testBit_two_pow_sub_succ below,
    Nat.testBit_mod_two_pow]
  cases decide (place < width) <;> rfl

theorem common_residue (n : Int) (width : Nat) : (common n (2 ^ width - 1) : Int) = n % 2 ^ width := by
  cases n with
  | ofNat k =>
    have low : common (.ofNat k) (2 ^ width - 1) = k % 2 ^ width := Nat.and_two_pow_sub_one_eq_mod k width
    rw [low]
    exact Int.natCast_mod k (2 ^ width)
  | negSucc k =>
    have low : common (.negSucc k) (2 ^ width - 1) = 2 ^ width - (k % 2 ^ width + 1) :=
      (xor_and _ k).trans (ldiff_low k width)
    have below : k % 2 ^ width < 2 ^ width := Nat.mod_lt _ (Nat.two_pow_pos width)
    have positive : (0 : Int) < 2 ^ width := Int.pow_pos (by decide)
    rw [low, Int.negSucc_emod k positive, Int.natCast_sub below]
    push_cast
    omega

end RecordBridge.Guest.Mask
