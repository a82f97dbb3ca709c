import Telemetry.Fleet.Basic
import Telemetry.Grid

/-!
# Configurations

One record holds the settings of every workload.  A fleet of hosts or of charge devices is built
from it, or a grid, after the settings that the workload depends on have been checked.

* `Workload`          hosts, charge devices or a grid;
* `Config.window`     the window of the two instants;
* `Config.validate`   the first setting that does not fit;
* `Config.fleet`      the fleet of the settings, over a table of regions, unless the number of an
                      entity overflows;
* `Config.grid`       the grid of the settings;
* `Config.fleet?`, `Config.grid?`  the same, unless there is no memory for it.
-/

namespace Telemetry

open Telemetry.Random

/-- a family of rows -/
inductive Workload where
  | devops
  | charge
  | metaquery
deriving DecidableEq, Repr

namespace Workload

/-- the name of a workload -/
def name : Workload → String
  | .devops => "devops"
  | .charge => "charge"
  | .metaquery => "metaquery"

/-- all workloads -/
def all : List Workload := [.devops, .charge, .metaquery]

/-- the workload of its own name -/
def ofCode? (s : String) : Option Workload := all.find? (·.name == s)

/-- the workload of a name; charge devices have a second one -/
def ofName? (s : String) : Option Workload := if s = "live" then some .charge else ofCode? s

end Workload

/-- the first second of 2016 -/
def Instant.year2016 : Instant := ⟨1451606400, 0⟩

/-- the settings of all workloads -/
structure Config where
  workload : Workload := .devops
  start : Instant := .year2016
  stop : Instant := { Instant.year2016 with seconds := Instant.year2016.seconds + 86400 }
  interval : Duration := .ofSeconds 10
  entityCount : UInt64 := 100
  /-- the identity number of the first entity -/
  offset : UInt64 := 0
  /-- what a host reports; nothing stands for everything that hosts can report -/
  kinds : List Kind := Kind.hostKinds
  devicesPerSite : UInt64 := 10
  axis : UInt64 := 100
  points : UInt64 := 10000
  overrides : Overrides := {}
deriving DecidableEq, Repr

namespace Config

/-- the timestamp of an instant -/
def timestamp (t : Instant) : Except Fault Int64 :=
  match t.nanos? with
  | some n => .ok n
  | none => .error (.invalidTimestamp t.seconds)

def window (c : Config) : Except Fault Window := do
  let start ← timestamp c.start
  let stop ← timestamp c.stop
  return ⟨start, stop⟩

/-- the first setting that does not fit, once there is a window -/
def fault? (c : Config) (w : Window) : Option ConfigFault :=
  if w.isEmpty then some (.reversedBounds c.start c.stop)
  else
    match c.workload with
    | .devops =>
      if c.interval.isZero then some .zeroInterval
      else if c.entityCount = 0 then some .zeroEntityCount
      else none
    | .charge =>
      if c.interval.isZero then some .zeroInterval
      else if c.entityCount = 0 then some .zeroEntityCount
      else if c.devicesPerSite = 0 then some .zeroDevicesPerSite
      else none
    | .metaquery => if c.axis = 0 ∨ c.points = 0 then some .zeroAxisOrPoints else none

/-- checks the settings that the workload depends on, and answers the window -/
def check (c : Config) : Except Fault Window := do
  let w ← c.window
  match c.fault? w with
  | some fault => throw (.invalidConfig fault)
  | none => return w

def validate (c : Config) : Except Fault Unit := do
  let _ ← c.check

/-- what hosts are built from -/
def hosts (c : Config) (w : Window) : Fleet.Hosts where
  window := w
  interval := c.interval
  count := c.entityCount
  offset := c.offset
  kinds := if c.kinds.isEmpty then Kind.hostKinds else c.kinds
  overrides := c.overrides

/-- what charge devices are built from -/
def devices (c : Config) (w : Window) : Fleet.Devices where
  window := w
  interval := c.interval
  count := c.entityCount
  offset := c.offset
  perSite := c.devicesPerSite
  overrides := c.overrides

/-- what a grid is built from -/
def plan (c : Config) (w : Window) : Grid.Plan := ⟨c.axis, c.points, w⟩

def fleet (c : Config) (regions : RegionTable) : OptionT Choice (Except Fault Fleet) :=
  match c.check with
  | .error e => return .error e
  | .ok w => do
    let built ← match c.workload with
      | .devops => Fleet.hosts (c.hosts w)
      | .charge => Fleet.devices (c.devices w) regions
      | .metaquery => pure (.error .noFleet)
    return built.mapError .invalidConfig

def grid (c : Config) : Except Fault Grid := do
  (Grid.build (c.plan (← c.check))).mapError .invalidConfig

/-- whether memory for the fleet can be set aside; settings that do not fit need none -/
def hasRoom (c : Config) : Bool :=
  match c.workload, c.check with
  | .devops, .ok w => (c.hosts w).hasRoom
  | _, _ => true

/-- the fleet of the settings; where there is no memory to list its entities, none is built -/
def fleet? (c : Config) (regions : RegionTable) : OptionT Choice (Except Fault Fleet) :=
  if c.hasRoom then c.fleet regions else failure

/-- the grid of the settings; `none` if there is no memory to list the values of its tags -/
def grid? (c : Config) : Option (Except Fault Grid) := Grid.list? c.grid

end Config

end Telemetry
