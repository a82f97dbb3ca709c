import Telemetry.Decimal.Natural
import Telemetry.Generator.Counter
import Telemetry.Overrides
import Telemetry.Point.Basic
import Telemetry.Random.Attribute
import Telemetry.Random.Slice

/-!
# Block devices

Seven totals, which grow by slices of nine bits of one draw.  The two byte totals count sectors.
-/

namespace Telemetry.Generator

open Telemetry.Random

/-- a block device -/
structure DiskIo where
  serial : String
  counters : Vector Counter 7

namespace DiskIo

def name : String := "diskio"

def tagKeys : List String := ["serial"]

def fieldKeys : List String :=
  ["reads", "writes", "read_bytes", "write_bytes", "read_time", "write_time", "io_time"]

/-- bytes in a sector -/
def sector : UInt64 := 512

/-- a device with a serial number of three parts -/
def new (o : Overrides) : Choice DiskIo := do
  let a ← within 0 999
  let b ← within 0 999
  let c ← within 0 9999
  let serial := Decimal.padded 3 a ++ '-' :: (Decimal.padded 3 b ++ '-' :: Decimal.padded 4 c)
  return ⟨o.getD name "serial" (String.ofList serial), zeroCounters 7⟩

/-- what one draw adds to the totals -/
def amounts (word : UInt64) : Vector UInt64 7 :=
  let slice := fun i : UInt32 => (bits word i 9).toUInt64
  #v[slice 0, slice 1, slice 2 * sector, slice 3 * sector, slice 4, slice 5, slice 6]

/-- one row, added to a point -/
def emit (g : DiskIo) (p : Point) : Draw (Bool × Point × DiskIo) := do
  let p := p.setMeasurement name
  let p := p.appendTag tagKeys[0]! g.serial
  let counters := addAll g.counters (amounts (← draw64))
  let p := p.appendTotals fieldKeys counters
  return (true, p, { g with counters := counters })

end DiskIo

end Telemetry.Generator
