import Telemetry.Point.Basic
import Telemetry.Random.Slice
import Telemetry.Random.Draw

/-!
# Processor usage

Ten percentages per row, each from a slice of seven bits.  Nine slices fit into one draw; the tenth
comes from a second, shorter draw.  Nothing is kept from row to row.
-/

namespace Telemetry.Generator.Cpu

open Telemetry.Random

def name : String := "cpu"

def fieldKeys : List String :=
  ["usage_user", "usage_system", "usage_idle", "usage_nice", "usage_iowait", "usage_irq",
    "usage_softirq", "usage_steal", "usage_guest", "usage_guest_nice"]

/-- seven bits as a percentage -/
def percentage (slice : UInt32) : FieldValue := .float (scale slice 7 0.0 100.0)

/-- the slice for the field number `i`: nine slices fit into the first draw, and the tenth is from
the second -/
def slice (word : UInt64) (extra : UInt32) (i : Nat) : UInt32 :=
  if i < 9 then bits word i.toUInt32 7 else bits extra.toUInt64 0 7

/-- one row, added to a point -/
def emit (p : Point) : Draw (Bool × Point) := do
  let p := p.setMeasurement name
  let word ← draw64
  let extra ← draw32
  let p := fieldKeys.zipIdx.foldl
    (fun p (key, i) => p.appendField key (percentage (slice word extra i))) p
  return (true, p)

end Telemetry.Generator.Cpu
