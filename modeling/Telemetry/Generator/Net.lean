import Telemetry.Generator.Counter
import Telemetry.Overrides
import Telemetry.Point.Basic
import Telemetry.Random.Draw
import Telemetry.Random.Slice

/-!
# Network interfaces

Eight totals, which grow by slices of eight bits of one draw: packets of 64 bytes and more, and, in
one row of 256, an error or a lost packet.
-/

namespace Telemetry.Generator

open Telemetry.Random

/-- a network interface -/
structure Net where
  interface : String
  counters : Vector Counter 8

namespace Net

def name : String := "net"

def tagKeys : List String := ["interface"]

def fieldKeys : List String :=
  ["bytes_sent", "bytes_recv", "packets_sent", "packets_recv", "err_in", "err_out", "drop_in",
    "drop_out"]

/-- an interface that has carried nothing -/
def new (o : Overrides) : Net := ⟨o.getD name "interface" "eth0", zeroCounters 8⟩

/-- the largest size of a packet without its header -/
def mtu : UInt64 := 1500

/-- one, where all eight bits of a slice are set -/
def rare (slice : UInt64) : UInt64 := if slice = 255 then 1 else 0

/-- what one draw adds to the totals -/
def amounts (word : UInt64) : Vector UInt64 8 :=
  let slice := fun i : UInt32 => (bits word i 8).toUInt64
  #v[slice 0 * (slice 2 % mtu + 64), slice 1 * (slice 3 % mtu + 64), slice 0, slice 1,
    rare (slice 4), rare (slice 5), rare (slice 6), rare (slice 7)]

/-- one row, added to a point -/
def emit (g : Net) (p : Point) : Draw (Bool × Point × Net) := do
  let p := p.setMeasurement name
  let p := p.appendTag tagKeys[0]! g.interface
  let counters := addAll g.counters (amounts (← draw64))
  let p := p.appendTotals fieldKeys counters
  return (true, p, { g with counters := counters })

end Net

end Telemetry.Generator
