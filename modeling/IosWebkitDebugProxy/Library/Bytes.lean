import Mathlib.Algebra.Group.Nat.Defs

/-! Numbers written as four bytes, and the number that four bytes are. -/

namespace Bytes

theorem fourBytes_value {length : Nat} (bound : length < 2 ^ 32) :
    (UInt8.ofNat ((length >>> 24) &&& 0xFF)).toNat <<< 24 |||
      (UInt8.ofNat ((length >>> 16) &&& 0xFF)).toNat <<< 16 |||
      (UInt8.ofNat ((length >>> 8) &&& 0xFF)).toNat <<< 8 |||
      (UInt8.ofNat (length &&& 0xFF)).toNat = length := by
  have mask (value : Nat) : (UInt8.ofNat (value &&& 0xFF)).toNat = value % 256 := by
    have low : value &&& 0xFF = value % 256 := Nat.and_two_pow_sub_one_eq_mod value 8
    rw [low]
    simp
  simp only [mask, Nat.shiftRight_eq_div_pow, Nat.or_assoc]
  have lowest : length % 256 < 2 ^ 8 := Nat.mod_lt _ (by decide)
  rw [← Nat.shiftLeft_add_eq_or_of_lt lowest]
  have lower : (length / 2 ^ 8 % 256) <<< 8 + length % 256 < 2 ^ 16 := by
    rw [Nat.shiftLeft_eq]
    omega
  rw [← Nat.shiftLeft_add_eq_or_of_lt lower]
  have low : (length / 2 ^ 16 % 256) <<< 16 + ((length / 2 ^ 8 % 256) <<< 8 + length % 256) <
      2 ^ 24 := by
    simp only [Nat.shiftLeft_eq]
    omega
  rw [← Nat.shiftLeft_add_eq_or_of_lt low]
  simp only [Nat.shiftLeft_eq]
  omega

end Bytes
