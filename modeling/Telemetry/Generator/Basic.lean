import Telemetry.Generator.Kind

/-!
# Generators

A generator makes the rows of one measurement of one entity.

* `Generator.new`        a new generator of a kind, its tag values fixed for good;
* `Generator.tick`       the generator one interval of time later;
* `Generator.emit`       one row, added to a point: whether there is one, the point, and the
                         generator after it.
-/

namespace Telemetry

open Telemetry.Random

/-- a generator of one of the nine kinds -/
inductive Generator where
  | cpu
  | disk (g : Generator.Disk)
  | diskIo (g : Generator.DiskIo)
  | kernel (g : Generator.Kernel)
  | mem (g : Generator.Mem)
  | net (g : Generator.Net)
  | nginx (g : Generator.Nginx)
  | redis (g : Generator.Redis)
  | cityUtility (g : Generator.CityUtility)

namespace Generator

def new (kind : Kind) (start : Int64) (o : Overrides) : Choice Generator :=
  match kind with
  | .cpu => return .cpu
  | .disk => return .disk (← Disk.new o)
  | .diskIo => return .diskIo (← DiskIo.new o)
  | .kernel => return .kernel (← Kernel.new start)
  | .mem => return .mem (← Mem.new)
  | .net => return .net (Net.new o)
  | .nginx => return .nginx (← Nginx.new o)
  | .redis => return .redis (← Redis.new o)
  | .cityUtility => return .cityUtility (← CityUtility.new o)

/-- the kind of a generator -/
def kind : Generator → Kind
  | .cpu => .cpu
  | .disk _ => .disk
  | .diskIo _ => .diskIo
  | .kernel _ => .kernel
  | .mem _ => .mem
  | .net _ => .net
  | .nginx _ => .nginx
  | .redis _ => .redis
  | .cityUtility _ => .cityUtility

def tick (interval : Duration) : Generator → Generator
  | .redis g => .redis (g.tick interval)
  | .cityUtility g => .cityUtility (g.tick interval)
  | g => g

/-- one row, added to a point: the name is set, and tags and fields are added -/
def emit (g : Generator) (p : Point) : Draw (Bool × Point × Generator) :=
  match g with
  | .cpu => return (← Cpu.emit p).map id (·, .cpu)
  | .disk g => return (← g.emit p).map id (Prod.map id .disk)
  | .diskIo g => return (← g.emit p).map id (Prod.map id .diskIo)
  | .kernel g => return (← g.emit p).map id (Prod.map id .kernel)
  | .mem g => return (← g.emit p).map id (Prod.map id .mem)
  | .net g => return (← g.emit p).map id (Prod.map id .net)
  | .nginx g => return (← g.emit p).map id (Prod.map id .nginx)
  | .redis g => return (← g.emit p).map id (Prod.map id .redis)
  | .cityUtility g => return (← g.emit p).map id (Prod.map id .cityUtility)

/-- the uptime that a key-value store reports -/
def uptime? : Generator → Option UInt64
  | .redis g => some g.uptime
  | _ => none

end Generator

end Telemetry
