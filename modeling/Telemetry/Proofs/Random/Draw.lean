import Mathlib.Logic.Function.Iterate
import Telemetry.Random.Draw

/-!
# Draws in a row

* `Stream.after s n`  the stream after `n` draws, whatever they are used for;
* `toNat_reduce`      an index under `n` as a quotient of natural numbers, and `reduce_lt` its bound;
* `reduce_lt_of_pos`  the bound for any number of items.
-/

namespace Telemetry.Random

/-- the stream after some draws -/
def Stream.after (s : Stream) (n : Nat) : Stream := ⟨step^[n] s.word⟩

@[simp] theorem Stream.after_zero (s : Stream) : s.after 0 = s := rfl

theorem Stream.after_after (s : Stream) (m n : Nat) : (s.after m).after n = s.after (m + n) := by
  show (⟨step^[n] (step^[m] s.word)⟩ : Stream) = ⟨step^[m + n] s.word⟩
  rw [Nat.add_comm, Function.iterate_add_apply]

theorem toNat_reduce (d n : UInt32) : (reduce d n).toNat = d.toNat * n.toNat / 4294967296 := by
  have hd := d.toNat_lt
  have hn := n.toNat_lt
  have hproduct : d.toNat * n.toNat < 4294967296 * 4294967296 := Nat.mul_lt_mul'' hd hn
  have hquotient : d.toNat * n.toNat / 4294967296 < 4294967296 := Nat.div_lt_of_lt_mul hproduct
  have hword : (d.toUInt64 * n.toUInt64).toNat = d.toNat * n.toNat := by
    rw [UInt64.toNat_mul, UInt32.toNat_toUInt64, UInt32.toNat_toUInt64]
    exact Nat.mod_eq_of_lt hproduct
  have hshift : ((d.toUInt64 * n.toUInt64) >>> 32).toNat = d.toNat * n.toNat / 4294967296 := by
    rw [UInt64.toNat_shiftRight, hword, Nat.shiftRight_eq_div_pow]
    rfl
  rw [reduce, UInt64.toNat_toUInt32, hshift]
  exact Nat.mod_eq_of_lt hquotient

theorem reduce_lt (d : UInt32) {n : UInt32} (h : 0 < n.toNat) : (reduce d n).toNat < n.toNat := by
  rw [toNat_reduce, Nat.div_lt_iff_lt_mul (by decide), Nat.mul_comm]
  exact Nat.mul_lt_mul_of_pos_left d.toNat_lt h

/-- a drawn number is below a number of items, also where that does not fit the draw -/
theorem reduce_lt_of_pos {n : Nat} (hpos : 0 < n) (d : UInt32) :
    (reduce d n.toUInt64.toUInt32).toNat < n := by
  have hcount : n.toUInt64.toUInt32.toNat = n % 18446744073709551616 % 4294967296 := rfl
  rcases Nat.eq_zero_or_pos n.toUInt64.toUInt32.toNat with hzero | hsome
  · rw [toNat_reduce, hzero, Nat.mul_zero, Nat.zero_div]
    exact hpos
  · have hlt := reduce_lt d hsome
    omega

end Telemetry.Random
