import Telemetry.Word

/-!
# Words and the numbers that they stand for

* `toNat_toUInt64_of_lt`  a number that fits is the number of its word;
* `toNat_succ`, `toNat_pred`  the word after and the word before;
* `toNat_max`, `toNat_min`    the larger and the smaller of two words;
* `toNat_pos_iff`         a word that is not zero stands for a number that is not zero;
* `toNat_toUInt64_add`    places counted from a word on;
* `testBit_shiftLeft`     the bits of a word that is shifted up;
* `toInt_toInt64`         a word read with a sign, and `toInt_toInt64_of_lt` where it has none;
* `toNat_toUInt64_of_nonneg`  a word with a sign read without one.
-/

namespace Telemetry.Word

theorem toNat_toUInt64_of_lt {n : Nat} (h : n < UInt64.size) : n.toUInt64.toNat = n := by
  show (UInt64.ofNat n).toNat = n
  rw [UInt64.toNat_ofNat']
  exact Nat.mod_eq_of_lt h

theorem toNat_succ {w : UInt64} (h : w.toNat + 1 < UInt64.size) : (w + 1).toNat = w.toNat + 1 := by
  rw [UInt64.toNat_add]
  exact Nat.mod_eq_of_lt h

theorem toNat_pred {w : UInt64} (h : 0 < w.toNat) : (w - 1).toNat = w.toNat - 1 := by
  have hle : (1 : UInt64) ≤ w := UInt64.le_iff_toNat_le.2 h
  rw [UInt64.toNat_sub_of_le _ _ hle]
  rfl

theorem toNat_pos_iff {n : UInt64} : 0 < n.toNat ↔ ¬ n = 0 := by
  rw [Nat.pos_iff_ne_zero, Ne, ← UInt64.toNat_inj]
  rfl

theorem toNat_max (a b : UInt64) : (max a b).toNat = max a.toNat b.toNat := by
  show (if a ≤ b then b else a).toNat = _
  split
  · rename_i h
    rw [Nat.max_eq_right (UInt64.le_iff_toNat_le.1 h)]
  · rename_i h
    rw [UInt64.le_iff_toNat_le] at h
    rw [Nat.max_eq_left (by omega)]

theorem toNat_min (a b : UInt64) : (min a b).toNat = min a.toNat b.toNat := by
  show (if a ≤ b then a else b).toNat = _
  split
  · rename_i h
    rw [Nat.min_eq_left (UInt64.le_iff_toNat_le.1 h)]
  · rename_i h
    rw [UInt64.le_iff_toNat_le] at h
    rw [Nat.min_eq_right (by omega)]

/-- the number of a place counted from a word on, which starts again at zero after the last word -/
theorem toNat_toUInt64_add (w : UInt64) (i : Nat) :
    (i.toUInt64 + w).toNat = (w.toNat + i) % UInt64.size := by
  rw [UInt64.toNat_add]
  show (i % UInt64.size + w.toNat) % UInt64.size = _
  rw [Nat.mod_add_mod, Nat.add_comm]

/-- the bits of a word that is shifted up: those that stay within the word -/
theorem testBit_shiftLeft {w k : UInt64} (hk : k.toNat < 64) {i : Nat} (hi : i < 64) :
    (w <<< k).toNat.testBit i = (decide (k.toNat ≤ i) && w.toNat.testBit (i - k.toNat)) := by
  rw [UInt64.toNat_shiftLeft, Nat.mod_eq_of_lt hk, Nat.testBit_mod_two_pow, Nat.testBit_shiftLeft,
    decide_eq_true hi, Bool.true_and]

theorem testBit_of_le (w : UInt64) {i : Nat} (hi : 64 ≤ i) : w.toNat.testBit i = false :=
  Nat.testBit_lt_two_pow
    (Nat.lt_of_lt_of_le w.toNat_lt (Nat.pow_le_pow_right (by decide) hi))

/-! ## signs -/

theorem toInt_toInt64 (w : UInt64) : w.toInt64.toInt = (w.toNat : Int).bmod 18446744073709551616 :=
  BitVec.toInt_eq_toNat_bmod _

theorem toInt_toInt64_of_lt {w : UInt64} (h : w.toNat < 9223372036854775808) :
    w.toInt64.toInt = w.toNat := by
  rw [toInt_toInt64, Int.bmod_eq_of_le (by omega) (by omega)]

theorem toNat_toUInt64_of_nonneg {w : Int64} (h : 0 ≤ w.toInt) :
    (w.toUInt64.toNat : Int) = w.toInt := by
  have hsigned : w.toInt = (w.toUInt64.toNat : Int).bmod 18446744073709551616 :=
    toInt_toInt64 w.toUInt64
  have hlt := w.toUInt64.toNat_lt
  rw [Int.bmod_def] at hsigned
  split at hsigned <;> omega

end Telemetry.Word
