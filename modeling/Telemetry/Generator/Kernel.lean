import Telemetry.Generator.Counter
import Telemetry.Point.Basic
import Telemetry.Random.Attribute
import Telemetry.Random.Slice

/-!
# Kernels

The time of the last boot, up to thirty days before the first row, and five totals that grow by
slices of twelve bits of one draw.
-/

namespace Telemetry.Generator

open Telemetry.Random

/-- a running kernel -/
structure Kernel where
  /-- seconds since 1970 -/
  bootTime : Int64
  counters : Vector Counter 5

namespace Kernel

def name : String := "kernel"

def fieldKeys : List String :=
  ["boot_time", "interrupts", "context_switches", "processes_forked", "disk_pages_in",
    "disk_pages_out"]

/-- nanoseconds in a second -/
def nanosPerSecond : Int64 := 1000000000

/-- the seconds of thirty days -/
def longestUptime : Nat := 30 * 24 * 3600

/-- a kernel that was booted before `start` -/
def new (start : Int64) : Choice Kernel := do
  let uptime ← within 0 (longestUptime - 1)
  return ⟨start / nanosPerSecond - Int64.ofNat uptime, zeroCounters 5⟩

/-- what one draw adds to the totals -/
def amounts (word : UInt64) : Vector UInt64 5 :=
  Vector.ofFn fun i => (bits word i.toNat.toUInt32 12).toUInt64

/-- one row, added to a point -/
def emit (g : Kernel) (p : Point) : Draw (Bool × Point × Kernel) := do
  let p := p.setMeasurement name
  let p := p.appendField fieldKeys[0]! (.integer g.bootTime)
  let counters := addAll g.counters (amounts (← draw64))
  let p := p.appendTotals (fieldKeys.drop 1) counters
  return (true, p, { g with counters := counters })

end Kernel

end Telemetry.Generator
