import Mathlib.Algebra.Order.Floor.Div
import Mathlib.Data.Set.Card
import Mathlib.Order.Interval.Finset.Nat
import Telemetry.Proofs.Random.Circle

/-!
# Shares of the draws

The draws of 32 bits that fall on one index of `[0, n)` are neighbours.  The indices cut the draws
at multiples of `2 ^ 32 / n`, each rounded up, and so into parts that differ by one draw at most.

* `share n k`        the number of draws that fall on an index;
* `first n k`        the first draw that falls on an index, or on one after it;
* `reduce_eq_iff`    the draws of an index, from its first one on to the first one of the next;
* `share_eq`, `share_bounds`  a share as a difference, and the bounds that the rounding leaves;
* `exists_draw32`    every draw is the next one of some stream.
-/

namespace Telemetry.Random

/-- the number of 32-bit draws that fall on an index -/
noncomputable def share (n k : UInt32) : Nat := {d : UInt32 | reduce d n = k}.ncard

/-- the first number, taken as a draw, that falls on an index or on one after it -/
def first (n : UInt32) (k : Nat) : Nat := (k * 4294967296) ⌈/⌉ n.toNat

section
variable {n : UInt32}

theorem first_le_iff (hn : 0 < n.toNat) {k d : Nat} :
    first n k ≤ d ↔ k * 4294967296 ≤ n.toNat * d :=
  ceilDiv_le_iff_le_mul hn

/-- rounding up adds less than one draw -/
theorem first_bounds (hn : 0 < n.toNat) (k : Nat) :
    k * 4294967296 ≤ n.toNat * first n k ∧
      n.toNat * first n k < k * 4294967296 + n.toNat := by
  refine ⟨(first_le_iff hn).1 (Nat.le_refl _), ?_⟩
  rcases Nat.eq_zero_or_pos (first n k) with hzero | hpos
  · rw [hzero, Nat.mul_zero]
    omega
  · -- the draw before the first one falls on an index before
    have hbefore : ¬ first n k ≤ first n k - 1 := by omega
    rw [first_le_iff hn, Nat.mul_sub, Nat.mul_one] at hbefore
    omega

theorem reduce_eq_iff (hn : 0 < n.toNat) {d k : UInt32} :
    reduce d n = k ↔ first n k.toNat ≤ d.toNat ∧ d.toNat < first n (k.toNat + 1) := by
  have hnext := first_le_iff hn (k := k.toNat + 1) (d := d.toNat)
  rw [← UInt32.toNat_inj, toNat_reduce, first_le_iff hn, Nat.mul_comm d.toNat]
  omega

theorem first_le_of_lt {k : Nat} (hk : k < n.toNat) : first n (k + 1) ≤ 4294967296 :=
  (first_le_iff (by omega)).2 (Nat.mul_le_mul_right _ hk)

/-- the draws of an index lie between its first one and the first one of the next index -/
theorem share_eq {k : UInt32} (hk : k.toNat < n.toNat) :
    share n k = first n (k.toNat + 1) - first n k.toNat := by
  have hn : 0 < n.toNat := by omega
  have hlast := first_le_of_lt hk
  have himage : UInt32.toNat '' {d : UInt32 | reduce d n = k}
      = Finset.Ico (first n k.toNat) (first n (k.toNat + 1)) := by
    ext m
    rw [Set.mem_image, Finset.mem_coe, Finset.mem_Ico]
    constructor
    · rintro ⟨d, hd, rfl⟩
      exact (reduce_eq_iff hn).1 hd
    · intro hm
      have hword : m.toUInt32.toNat = m := Nat.mod_eq_of_lt (Nat.lt_of_lt_of_le hm.2 hlast)
      refine ⟨m.toUInt32, (reduce_eq_iff hn).2 ?_, hword⟩
      rwa [hword]
  have hinj : Function.Injective UInt32.toNat := fun _ _ => UInt32.toNat_inj.1
  rw [share, ← Set.ncard_image_of_injective _ hinj, himage, Set.ncard_coe_finset, Nat.card_Ico]

/-- a share is the quotient of all draws by the indices, give or take what is rounded -/
theorem share_bounds {k : UInt32} (hk : k.toNat < n.toNat) :
    4294967296 < n.toNat * share n k + n.toNat ∧ n.toNat * share n k < 4294967296 + n.toNat := by
  have hn : 0 < n.toNat := by omega
  obtain ⟨hle, hlt⟩ := first_bounds hn k.toNat
  obtain ⟨hle', hlt'⟩ := first_bounds hn (k.toNat + 1)
  rw [share_eq hk, Nat.mul_sub]
  omega

/-- the quotient rounded down, or rounded up -/
theorem share_eq_or (k : UInt32) (hk : k.toNat < n.toNat) :
    share n k = 4294967296 / n.toNat ∨ share n k = 4294967296 ⌈/⌉ n.toNat := by
  have hn : 0 < n.toNat := by omega
  obtain ⟨hlower, hupper⟩ := share_bounds hk
  have hfloor : 4294967296 / n.toNat < share n k + 1 := by
    rw [Nat.div_lt_iff_lt_mul hn, Nat.add_mul, Nat.one_mul, Nat.mul_comm]
    exact hlower
  have hceil : share n k ≤ 4294967296 ⌈/⌉ n.toNat := by
    have hround : 4294967296 ≤ n.toNat * (4294967296 ⌈/⌉ n.toNat) :=
      (ceilDiv_le_iff_le_mul hn).1 (Nat.le_refl _)
    have hlt : n.toNat * share n k < n.toNat * (4294967296 ⌈/⌉ n.toNat + 1) := by
      rw [Nat.mul_add, Nat.mul_one]
      omega
    exact Nat.lt_succ_iff.1 (Nat.lt_of_mul_lt_mul_left hlt)
  have hgap : 4294967296 ⌈/⌉ n.toNat ≤ 4294967296 / n.toNat + 1 := by
    rw [ceilDiv_le_iff_le_mul hn, Nat.mul_add, Nat.mul_one]
    have hrest := Nat.mod_lt 4294967296 hn
    have hsplit := Nat.div_add_mod 4294967296 n.toNat
    omega
  omega

theorem share_le_succ {k other : UInt32} (hk : k.toNat < n.toNat) (hother : other.toNat < n.toNat) :
    share n k ≤ share n other + 1 := by
  have hupper := (share_bounds hk).2
  have hlower := (share_bounds hother).1
  have hlt : n.toNat * share n k < n.toNat * (share n other + 2) := by
    rw [Nat.mul_add]
    omega
  exact Nat.lt_succ_iff.1 (Nat.lt_of_mul_lt_mul_left hlt)

/-- there are fewer indices than draws, so each index has one -/
theorem exists_reduce {k : UInt32} (hk : k.toNat < n.toNat) : ∃ d, reduce d n = k := by
  have hlt := n.toNat_lt
  have hpos : share n k ≠ 0 := by
    intro hzero
    have hlower := (share_bounds hk).1
    rw [hzero, Nat.mul_zero] at hlower
    omega
  exact Set.nonempty_of_ncard_ne_zero hpos

end

/-! ## streams to a draw -/

/-- the move and the draw reach every word, so there is a stream whose next draw has any upper half
that is asked for -/
theorem exists_draw32 (d : UInt32) : ∃ seed, (draw32.run (Stream.ofSeed seed)).1 = d := by
  have hsurjective : Function.Surjective fun w => scramble (step w) :=
    Finite.surjective_of_injective (scramble_injective.comp step_injective)
  have hnat : (d.toUInt64 * 4294967296 + 1).toNat = d.toNat * 4294967296 + 1 := by
    have hlt := d.toNat_lt
    rw [UInt64.toNat_add, UInt64.toNat_mul, UInt32.toNat_toUInt64]
    show (d.toNat * 4294967296 % 18446744073709551616 + 1) % 18446744073709551616 = _
    omega
  obtain ⟨seed, hseed⟩ := hsurjective (d.toUInt64 * 4294967296 + 1)
  have hne : seed ≠ 0 := by
    rintro rfl
    have hzero := congrArg UInt64.toNat hseed
    rw [hnat] at hzero
    exact absurd hzero.symm (Nat.succ_ne_zero _)
  refine ⟨seed, ?_⟩
  rw [Stream.ofSeed, if_neg hne, draw32_run]
  apply UInt32.toNat_inj.1
  show ((scramble (step seed)) >>> 32).toUInt32.toNat = d.toNat
  rw [show scramble (step seed) = _ from hseed, UInt64.toNat_toUInt32, UInt64.toNat_shiftRight, hnat,
    Nat.shiftRight_eq_div_pow]
  show (d.toNat * 4294967296 + 1) / 4294967296 % 4294967296 = d.toNat
  have hlt := d.toNat_lt
  omega

end Telemetry.Random
