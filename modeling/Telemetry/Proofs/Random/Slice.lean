import Mathlib.Tactic.Ring
import Telemetry.Random.Slice

/-!
# Bit slices as numbers

A slice of a word is a quotient of the word by a power of two, cut off at the slice's width.

* `cut offset width word`   that number;
* `toNat_bitsAt`            the slices of a word are such numbers, as long as they start within the
                            word and are not wider than half of it.
-/

namespace Telemetry.Random

/-- `width` bits of a word, from bit `offset` on, as a number -/
def cut (offset width : Nat) (word : UInt64) : Nat := word.toNat / 2 ^ offset % 2 ^ width

theorem cut_lt (offset width : Nat) (word : UInt64) : cut offset width word < 2 ^ width :=
  Nat.mod_lt _ (Nat.two_pow_pos width)

theorem toNat_mask {width : UInt32} (h : width.toNat ≤ 32) :
    (mask width).toNat = 2 ^ width.toNat - 1 := by
  have hpow : 2 ^ width.toNat ≤ 2 ^ 32 := Nat.pow_le_pow_right (by decide) h
  have hpos : 0 < 2 ^ width.toNat := Nat.two_pow_pos _
  have hshift : ((1 : UInt64) <<< width.toUInt64).toNat = 2 ^ width.toNat := by
    rw [UInt64.toNat_shiftLeft, UInt32.toNat_toUInt64, Nat.mod_eq_of_lt (by omega : _ < 64),
      Nat.shiftLeft_eq, show (1 : UInt64).toNat = 1 from rfl, Nat.one_mul]
    exact Nat.mod_eq_of_lt (by omega)
  have hle : (1 : UInt64) ≤ 1 <<< width.toUInt64 := by
    rw [UInt64.le_iff_toNat_le, hshift]
    exact hpos
  rw [mask, UInt64.toNat_sub_of_le _ _ hle, hshift]
  rfl

theorem toNat_bitsAt {offset width : UInt32} (hoffset : offset.toNat < 64)
    (hwidth : width.toNat ≤ 32) (word : UInt64) :
    (bitsAt word offset width).toNat = cut offset.toNat width.toNat word := by
  have hpow : 2 ^ width.toNat ≤ 2 ^ 32 := Nat.pow_le_pow_right (by decide) hwidth
  have hlt := cut_lt offset.toNat width.toNat word
  have hand : ((word >>> offset.toUInt64) &&& mask width).toNat
      = cut offset.toNat width.toNat word := by
    rw [UInt64.toNat_and, toNat_mask hwidth, Nat.and_two_pow_sub_one_eq_mod,
      UInt64.toNat_shiftRight, UInt32.toNat_toUInt64, Nat.mod_eq_of_lt hoffset,
      Nat.shiftRight_eq_div_pow, cut]
  rw [bitsAt, UInt64.toNat_toUInt32, hand]
  exact Nat.mod_eq_of_lt (by omega)

end Telemetry.Random
