import Telemetry.Generator.Walk
import Telemetry.Point.Basic
import Telemetry.Random.Attribute

/-!
# Main memory

A memory of fixed size.  The available bytes walk between zero and the total; up to a tenth of them
is buffered and up to a half is cached, drawn anew for every row, and the rest is free.
-/

namespace Telemetry.Generator

open Telemetry.Random

/-- a main memory -/
structure Mem where
  total : UInt64
  available : IntWalk

namespace Mem

def name : String := "mem"

def fieldKeys : List String :=
  ["total", "available", "used", "free", "cached", "buffered", "used_percent",
    "available_percent", "buffered_percent"]

/-- bytes in a gibibyte -/
def gib : UInt64 := 1073741824

/-- a memory of a listed size, used to some degree -/
def new : Choice Mem := do
  let size ← choose (8 : UInt64) [16, 32, 64]
  let total := size * gib
  let available ← within 0 total.toNat
  return ⟨total,
    IntWalk.start available.toUInt64 0 total (total / 100) UInt64.zero_le⟩

/-- one row, added to a point -/
def emit (g : Mem) (p : Point) : Draw (Bool × Point × Mem) := do
  let p := p.setMeasurement name
  let (available, walk) ← g.available.advance
  let used := g.total - available
  let buffered := (available.toFloat * (← unit) * 0.1).toUInt64
  let cached := (available.toFloat * (← unit) * 0.5).toUInt64
  let free := available - buffered - cached
  let total := g.total.toFloat
  let p := p.appendField fieldKeys[0]! (.unsigned g.total)
  let p := p.appendField fieldKeys[1]! (.unsigned available)
  let p := p.appendField fieldKeys[2]! (.unsigned used)
  let p := p.appendField fieldKeys[3]! (.unsigned free)
  let p := p.appendField fieldKeys[4]! (.unsigned cached)
  let p := p.appendField fieldKeys[5]! (.unsigned buffered)
  let p := p.appendField fieldKeys[6]! (.float (used.toFloat * 100.0 / total))
  let p := p.appendField fieldKeys[7]! (.float (available.toFloat * 100.0 / total))
  let p := p.appendField fieldKeys[8]! (.float (buffered.toFloat * 100.0 / total))
  return (true, p, { g with available := walk })

end Mem

end Telemetry.Generator
