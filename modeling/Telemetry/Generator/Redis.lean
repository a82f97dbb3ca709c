import Telemetry.Decimal.Natural
import Telemetry.Generator.Counter
import Telemetry.Generator.Walk
import Telemetry.Overrides
import Telemetry.Point.Basic
import Telemetry.Random.Attribute
import Telemetry.Random.Slice
import Telemetry.Time.Duration

/-!
# Key-value stores

The uptime moves with time and not with rows; it is kept in nanoseconds and reported in whole
seconds.  Connections, keys and processor time are totals, the rates are drawn anew for every row,
and the clients and the used memory walk within fixed bounds.
-/

namespace Telemetry.Generator

open Telemetry.Random

/-- a key-value store -/
structure Redis where
  port : String
  server : String
  uptimeNanos : Counter
  stats : Vector Counter 5
  clients : IntWalk
  memory : IntWalk
  cpuSys : FloatCounter
  cpuUser : FloatCounter

namespace Redis

def name : String := "redis"

def tagKeys : List String := ["port", "server"]

def fieldKeys : List String :=
  ["uptime_in_seconds", "total_connections_received", "expired_keys", "evicted_keys",
    "keyspace_hits", "keyspace_misses", "instantaneous_ops_per_sec", "instantaneous_input_kbps",
    "instantaneous_output_kbps", "connected_clients", "used_memory", "used_cpu_sys",
    "used_cpu_user"]

/-- bytes in a mebibyte -/
def mib : UInt64 := 1048576

/-- nanoseconds in a second -/
def nanosPerSecond : UInt64 := 1000000000

/-- the least memory in use -/
def minMemory : UInt64 := mib

/-- the most memory in use -/
def maxMemory : UInt64 := 4096 * mib

/-- the most clients -/
def maxClients : UInt64 := 10000

/-- a store that has been up for less than a week -/
def new (o : Overrides) : Choice Redis := do
  let n ← within 0 99999
  let uptime ← within 0 (7 * 24 * 3600 - 1)
  let clients ← within 0 100
  let memory ← within minMemory.toNat (maxMemory / 4).toNat
  let server := "redis_" ++ String.ofList (Decimal.digits n)
  return {
    port := o.getD name "port" "6379"
    server := o.getD name "server" server
    uptimeNanos := ⟨uptime.toUInt64 * nanosPerSecond⟩
    stats := zeroCounters 5
    clients := IntWalk.start clients.toUInt64 0 maxClients 50 (by decide)
    memory := IntWalk.start memory.toUInt64 minMemory maxMemory (4 * mib) (by decide)
    cpuSys := {}
    cpuUser := {} }

/-- the uptime in whole seconds -/
def uptime (g : Redis) : UInt64 := g.uptimeNanos.value / nanosPerSecond

/-- the store one interval later -/
def tick (g : Redis) (interval : Duration) : Redis :=
  { g with uptimeNanos := g.uptimeNanos.add interval.toNanos.toUInt64 }

/-- what one draw adds to the totals -/
def amounts (word : UInt64) : Vector UInt64 5 :=
  Vector.ofFn fun i => (bits word i.toNat.toUInt32 8).toUInt64

/-- sixteen bits as a rate in kilobytes per second -/
def rate (slice : UInt32) : FieldValue := .float (scale slice 16 0.0 1024.0)

/-- one row, added to a point -/
def emit (g : Redis) (p : Point) : Draw (Bool × Point × Redis) := do
  let p := p.setMeasurement name
  let p := p.appendTag tagKeys[0]! g.port
  let p := p.appendTag tagKeys[1]! g.server
  let p := p.appendField fieldKeys[0]! (.unsigned g.uptime)
  let stats := addAll g.stats (amounts (← draw64))
  let p := p.appendTotals (fieldKeys.extract 1 6) stats
  let gauges ← draw64
  let p := p.appendField fieldKeys[6]! (.unsigned (bits gauges 0 16).toUInt64)
  let p := p.appendField fieldKeys[7]! (rate (bits gauges 1 16))
  let p := p.appendField fieldKeys[8]! (rate (bits gauges 2 16))
  let (clients, clientsWalk) ← g.clients.advance
  let p := p.appendField fieldKeys[9]! (.unsigned clients)
  let (memory, memoryWalk) ← g.memory.advance
  let p := p.appendField fieldKeys[10]! (.unsigned memory)
  let cpuSys := g.cpuSys.add (← unit)
  let p := p.appendField fieldKeys[11]! (.float cpuSys.value)
  let cpuUser := g.cpuUser.add (← unit)
  let p := p.appendField fieldKeys[12]! (.float cpuUser.value)
  return (true, p,
    { g with
      stats := stats
      clients := clientsWalk
      memory := memoryWalk
      cpuSys := cpuSys
      cpuUser := cpuUser })

end Redis

end Telemetry.Generator
