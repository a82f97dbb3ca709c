import Telemetry.Proofs.Entity.Fresh
import Telemetry.Proofs.Generator.Schema

/-!
# The boot time of a kernel

A kernel was booted some seconds before the start.  The start is cut to whole seconds towards zero,
which before 1970 is upwards, so a kernel that has been up for no time may come out as booted later.

* `bootTime?`               the boot time, for the generators that have one;
* `bootTime?_tick`, `bootTime?_advance`  ticks and rows keep it;
* `fields_of_bootTime?`      the boot time in a row;
* `bootSecond start uptime` the boot time of a new kernel, in the integers;
* `bootSecond_le_iff`       it is not after the start, except in one case;
* `lt_bootSecond`, `bootSecond_lt`  it is at most thirty days before, and less than a second after.
-/

namespace Telemetry.Generator

open Telemetry.Random

/-- the seconds from 1970 to the boot of a kernel -/
def bootTime? : Generator → Option Int64
  | .kernel g => some g.bootTime
  | _ => none

theorem bootTime?_tick (g : Generator) (interval : Duration) :
    (g.tick interval).bootTime? = g.bootTime? := by
  cases g with
  | redis g => exact show none = none from rfl
  | _ => rfl

theorem bootTime?_advance (g : Generator) (s : Stream) :
    (g.advance.run s).1.2.bootTime? = g.bootTime? := by
  cases g with
  | nginx g => exact show none = none from rfl
  | _ => rfl

variable {g : Generator} {boot : Int64}

theorem kind_of_bootTime? (h : g.bootTime? = some boot) : g.kind = .kernel := by
  cases g with
  | kernel g => rfl
  | _ => exact nomatch h

/-- a row of a kernel has the boot time in front -/
theorem fields_of_bootTime? (h : g.bootTime? = some boot) (s : Stream) :
    ∃ rest, g.fields (g.advance.run s).1.1 = ⟨"boot_time", .integer boot⟩ :: rest := by
  cases g with
  | kernel g =>
    obtain rfl := Option.some.inj h
    exact ⟨_, rfl⟩
  | _ => exact nomatch h

/-! ## new kernels -/

/-- whole seconds of a start, rounded towards zero, less an uptime -/
def bootSecond (start : Int) (uptime : Nat) : Int := start.tdiv 1000000000 - uptime

theorem toInt_bootTime?_new (start : Int64) (o : Overrides) (a : Attributes) :
    ((new .kernel start o).run a).1.bootTime?.map Int64.toInt
      = some (bootSecond start.toInt (Kernel.uptime a)) :=
  congrArg some (Kernel.toInt_bootTime start a)

/-- rounding towards zero is upwards for a time before 1970 that is not a whole second -/
theorem tdiv_second (t : Int) :
    t.tdiv 1000000000
      = t / 1000000000 + if 0 ≤ t ∨ (1000000000 : Int) ∣ t then 0 else 1 :=
  Int.tdiv_eq_ediv

theorem bootSecond_le_iff (start : Int) (uptime : Nat) :
    bootSecond start uptime * 1000000000 ≤ start ↔
      0 ≤ start ∨ (1000000000 : Int) ∣ start ∨ 0 < uptime := by
  rw [bootSecond, tdiv_second]
  split <;> omega

theorem lt_bootSecond (start : Int) {uptime : Nat} (h : uptime < 2592000) :
    start - 2592000 * 1000000000 < bootSecond start uptime * 1000000000 := by
  rw [bootSecond, tdiv_second]
  split <;> omega

theorem bootSecond_lt (start : Int) (uptime : Nat) :
    bootSecond start uptime * 1000000000 < start + 1000000000 := by
  rw [bootSecond, tdiv_second]
  split <;> omega

end Telemetry.Generator
