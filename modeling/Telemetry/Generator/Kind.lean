import Telemetry.Generator.CityUtility
import Telemetry.Generator.Cpu
import Telemetry.Generator.Disk
import Telemetry.Generator.DiskIo
import Telemetry.Generator.Kernel
import Telemetry.Generator.Mem
import Telemetry.Generator.Net
import Telemetry.Generator.Nginx
import Telemetry.Generator.Redis

/-!
# Measurement kinds

* `Kind`             the nine kinds of rows that can be generated;
* `Kind.name`        the measurement name in a row;
* `Kind.code`        the name in a configuration;
* `Kind.ofName?`     the kind of a name, with the second spellings of two kinds;
* `Kind.tagKeys`, `Kind.fieldKeys`  the schema: the keys of a row in order;
* `Kind.hostKinds`   what a host reports unless told otherwise.
-/

namespace Telemetry

/-- a kind of measurement -/
inductive Kind where
  | cpu | disk | diskIo | kernel | mem | net | nginx | redis | cityUtility
deriving DecidableEq, Repr

namespace Kind

def name : Kind → String
  | .cpu => Generator.Cpu.name
  | .disk => Generator.Disk.name
  | .diskIo => Generator.DiskIo.name
  | .kernel => Generator.Kernel.name
  | .mem => Generator.Mem.name
  | .net => Generator.Net.name
  | .nginx => Generator.Nginx.name
  | .redis => Generator.Redis.name
  | .cityUtility => Generator.CityUtility.name

def code : Kind → String
  | .diskIo => "disk_io"
  | k => k.name

/-- all kinds -/
def all : List Kind := [.cpu, .disk, .diskIo, .kernel, .mem, .net, .nginx, .redis, .cityUtility]

def ofName? (s : String) : Option Kind :=
  if s = "disk_io" then some .diskIo
  else if s = "city-utility" then some .cityUtility
  else all.find? (·.name == s)

/-- the kind of a name in a configuration -/
def ofCode? (s : String) : Option Kind := all.find? (·.code == s)

/-- the keys of the tags that a row of this kind adds, in order -/
def tagKeys : Kind → List String
  | .cpu | .kernel | .mem => []
  | .disk => Generator.Disk.tagKeys
  | .diskIo => Generator.DiskIo.tagKeys
  | .net => Generator.Net.tagKeys
  | .nginx => Generator.Nginx.tagKeys
  | .redis => Generator.Redis.tagKeys
  | .cityUtility => Generator.CityUtility.tagKeys

/-- the keys of the fields of a row of this kind, in order -/
def fieldKeys : Kind → List String
  | .cpu => Generator.Cpu.fieldKeys
  | .disk => Generator.Disk.fieldKeys
  | .diskIo => Generator.DiskIo.fieldKeys
  | .kernel => Generator.Kernel.fieldKeys
  | .mem => Generator.Mem.fieldKeys
  | .net => Generator.Net.fieldKeys
  | .nginx => Generator.Nginx.fieldKeys
  | .redis => Generator.Redis.fieldKeys
  | .cityUtility => Generator.CityUtility.fieldKeys

def hostKinds : List Kind := [.cpu, .disk, .diskIo, .kernel, .mem, .net, .nginx, .redis]

end Kind

end Telemetry
