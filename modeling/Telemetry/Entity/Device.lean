import Telemetry.Decimal.Natural
import Telemetry.Entity.Basic
import Telemetry.Error
import Telemetry.Region

/-!
# Charge devices

Devices stand in sites, a fixed number of consecutive devices in each, and sites are spread over the
area codes of a region table in turn.  All tags but the vendor follow from the identity number.

* `Device.check`     what a device needs: an area code, and room at its site;
* `Device.identity`  the five tags that follow from the number;
* `Device.ofNumber`  a device with one generator;
* `Device.new`       the device at a place in a fleet, unless its number overflows;
* `Device.new?`      the same, after the check.
-/

namespace Telemetry.Device

open Telemetry.Random

/-- the tag keys of a device, in order -/
def tagKeys : List String := ["province", "city", "county", "site_id", "device_id", "vendor"]

/-- the width of a device number -/
def idWidth : Nat := 10

/-- the name of what a table does not resolve -/
def unknown : String := "unknown"

/-- a device needs an area code, and sites need room for devices -/
def check (regions : RegionTable) (perSite : UInt64) : Except ConfigFault Unit :=
  if regions.codes.isEmpty then .error .emptyRegionTable
  else if perSite = 0 then .error .zeroDevicesPerSite
  else .ok ()

/-- the area code of a site -/
def siteCode (codes : List UInt32) (site : Nat) : UInt32 := (codes[site % codes.length]?).getD 0

/-- the name of a site: its area code, and its number among the sites with that code -/
def siteId (codes : List UInt32) (site : Nat) : String :=
  String.ofList ("site_".toList ++ Decimal.digits (siteCode codes site).toNat ++ '_' ::
    Decimal.padded 4 (site / codes.length))

def identity (regions : RegionTable) (perSite n : Nat) : List Tag :=
  let site := n / perSite
  let code := siteCode regions.codes site
  let (province, city, county) :=
    match regions.lookup code with
    | some r => (r.province, r.city, r.county)
    | none => (unknown, unknown, unknown)
  [⟨"province", province⟩, ⟨"city", city⟩, ⟨"county", county⟩,
   ⟨"site_id", siteId regions.codes site⟩,
   ⟨"device_id", String.ofList (Decimal.padded idWidth n)⟩]

/-- the device with an identity number -/
def ofNumber (n : UInt64) (start : Int64) (perSite : UInt64) (regions : RegionTable)
    (o : Overrides) : Choice Entity := do
  let vendor ← choose "abb" ["delta", "siemens", "teld"]
  let generator ← Generator.new .cityUtility start o
  return {
    index := n
    tags := identity regions perSite.toNat n.toNat ++ [⟨"vendor", vendor⟩]
    generators := [generator] }

/-- device number `index` of a fleet whose identity numbers start at `offset` -/
def new (index offset : UInt64) (start : Int64) (perSite : UInt64) (regions : RegionTable)
    (o : Overrides) : OptionT Choice Entity :=
  Entity.numbered index offset fun n => ofNumber n start perSite regions o

/-- a device, if it has what it needs -/
def new? (index offset : UInt64) (start : Int64) (perSite : UInt64) (regions : RegionTable)
    (o : Overrides) : OptionT Choice (Except ConfigFault Entity) :=
  match check regions perSite with
  | .error fault => return .error fault
  | .ok () => .ok <$> new index offset start perSite regions o

end Telemetry.Device
