import Telemetry.Decimal.Natural
import Telemetry.Entity.Basic

/-!
# Hosts

A host of a data centre.  Its name, region, data centre and rack follow from its identity number;
its operating system and the service on it are chosen when it is built.

* `Host.identity`  the four tags that follow from the number;
* `Host.ofNumber`  a host with a generator for each of the given kinds;
* `Host.new`       the host at a place in a fleet, unless its number overflows.
-/

namespace Telemetry.Host

open Telemetry.Random

/-- the tag keys of a host, in order -/
def tagKeys : List String :=
  ["hostname", "region", "datacenter", "rack", "os", "arch", "team", "service", "service_version",
    "service_environment"]

/-- a region and its data centres, of which there is at least one -/
structure Location where
  region : String
  first : String
  others : List String

/-- the regions in the order in which hosts are spread over them -/
def locations : List Location :=
  [⟨"us-east-1", "us-east-1a", ["us-east-1b", "us-east-1c", "us-east-1e"]⟩,
   ⟨"us-west-1", "us-west-1a", ["us-west-1b"]⟩,
   ⟨"us-west-2", "us-west-2a", ["us-west-2b", "us-west-2c"]⟩,
   ⟨"eu-west-1", "eu-west-1a", ["eu-west-1b", "eu-west-1c"]⟩,
   ⟨"eu-central-1", "eu-central-1a", ["eu-central-1b"]⟩,
   ⟨"ap-southeast-1", "ap-southeast-1a", ["ap-southeast-1b"]⟩,
   ⟨"ap-southeast-2", "ap-southeast-2a", ["ap-southeast-2b"]⟩,
   ⟨"ap-northeast-1", "ap-northeast-1a", ["ap-northeast-1c"]⟩,
   ⟨"sa-east-1", "sa-east-1a", ["sa-east-1b", "sa-east-1c"]⟩]

/-- the number of racks in a data centre -/
def racks : Nat := 100

/-- the data centres of a region -/
def Location.datacenters (l : Location) : List String := l.first :: l.others

/-- the region that a host stands in -/
def location (n : Nat) : Location :=
  (locations[n % locations.length]?).getD ⟨"", "", []⟩

/-- the data centre that a host stands in: its region's are filled in turn -/
def datacenter (n : Nat) : String :=
  let l := location n
  (l.datacenters[n / locations.length % l.datacenters.length]?).getD l.first

def identity (n : Nat) : List Tag :=
  [⟨"hostname", "host_" ++ String.ofList (Decimal.digits n)⟩,
   ⟨"region", (location n).region⟩,
   ⟨"datacenter", datacenter n⟩,
   ⟨"rack", String.ofList (Decimal.digits (n / locations.length % racks))⟩]

/-- the tags that are chosen -/
def attributes : Choice (List Tag) := do
  let os ← choose "Ubuntu16.10" ["Ubuntu16.04LTS", "Ubuntu15.10"]
  let arch ← choose "x64" ["x86"]
  let team ← choose "SF" ["NYC", "LON", "CHI"]
  let service ← within 0 19
  let version ← within 0 1
  let environment ← choose "production" ["staging", "test"]
  return [⟨"os", os⟩, ⟨"arch", arch⟩, ⟨"team", team⟩,
    ⟨"service", String.ofList (Decimal.digits service)⟩,
    ⟨"service_version", String.ofList (Decimal.digits version)⟩,
    ⟨"service_environment", environment⟩]

/-- the host with an identity number -/
def ofNumber (n : UInt64) (start : Int64) (kinds : List Kind) (o : Overrides) : Choice Entity := do
  let chosen ← attributes
  let generators ← kinds.mapM fun kind => Generator.new kind start o
  return { index := n, tags := identity n.toNat ++ chosen, generators := generators }

/-- host number `index` of a fleet whose identity numbers start at `offset` -/
def new (index offset : UInt64) (start : Int64) (kinds : List Kind) (o : Overrides) :
    OptionT Choice Entity :=
  Entity.numbered index offset fun n => ofNumber n start kinds o

end Telemetry.Host
