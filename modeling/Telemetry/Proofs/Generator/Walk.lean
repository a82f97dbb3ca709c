import Telemetry.Generator.Walk

/-!
# Walks within bounds

A walk over whole numbers starts within its bounds, and no draw takes it out of them.

* `toNat_clamp`     what it means, in the integers, to bring a number within bounds;
* `Within lo hi w`  a walk between two bounds, with its value in between;
* `within_start`, `Within.advance`  a walk starts so, and stays so after every move.
-/

namespace Telemetry.IntWalk

open Telemetry.Random

variable {lo hi : UInt64}

theorem toNat_clamp (h : lo ≤ hi) (v : Int) :
    ((clamp lo hi v).toNat : Int) = max (lo.toNat : Int) (min v hi.toNat) := by
  have hle := UInt64.le_iff_toNat_le.1 h
  unfold clamp
  split
  · omega
  · split
    · omega
    · have hlt := hi.toNat_lt
      have hword : v.toNat.toUInt64.toNat = v.toNat := UInt64.toNat_ofNat_of_lt' (by
        show v.toNat < 18446744073709551616
        omega)
      rw [hword]
      omega

/-- a walk between two bounds -/
structure Within (lo hi : UInt64) (w : IntWalk) : Prop where
  lo_eq : w.lo = lo
  hi_eq : w.hi = hi
  lo_le : lo.toNat ≤ w.value.toNat
  le_hi : w.value.toNat ≤ hi.toNat

/-- a value that was brought within the bounds of a walk -/
theorem within_of_clamp {w : IntWalk} (hlo : w.lo = lo) (hhi : w.hi = hi) {v : Int}
    (hvalue : w.value = clamp lo hi v) : w.Within lo hi := by
  have hle : lo ≤ hi := by
    rw [← hlo, ← hhi]
    exact w.lo_le_hi
  have hclamp := toNat_clamp hle v
  have hle' := UInt64.le_iff_toNat_le.1 hle
  rw [← hvalue] at hclamp
  refine ⟨hlo, hhi, ?_, ?_⟩ <;> omega

theorem within_start (initial step : UInt64) (h : lo ≤ hi) :
    (start initial lo hi step h).Within lo hi :=
  within_of_clamp rfl rfl rfl

theorem Within.move {w : IntWalk} (h : w.Within lo hi) (d : Int) : (w.move d).Within lo hi := by
  have hvalue : (w.move d).value = clamp lo hi (w.value.toNat + d) := by
    rw [← h.lo_eq, ← h.hi_eq]
    rfl
  exact within_of_clamp h.lo_eq h.hi_eq hvalue

theorem advance_run (w : IntWalk) (s : Stream) :
    w.advance.run s
      = (((w.move (offset w.step (draw64.run s).1)).value, w.move (offset w.step (draw64.run s).1)),
          (draw64.run s).2) := rfl

theorem Within.advance {w : IntWalk} (h : w.Within lo hi) (s : Stream) :
    (w.advance.run s).1.2.Within lo hi := by
  rw [advance_run]
  exact h.move _

/-- the value that a move answers is the value of the walk after it -/
theorem Within.answer {w : IntWalk} (h : w.Within lo hi) (s : Stream) :
    lo.toNat ≤ (w.advance.run s).1.1.toNat ∧ (w.advance.run s).1.1.toNat ≤ hi.toNat :=
  ⟨(h.advance s).lo_le, (h.advance s).le_hi⟩

end Telemetry.IntWalk
