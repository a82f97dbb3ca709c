import Telemetry.Generator.Counter
import Telemetry.Generator.Walk
import Telemetry.Overrides
import Telemetry.Point.Basic
import Telemetry.Random.Attribute
import Telemetry.Time.Duration

/-!
# Charging points

Voltage, current and temperature walk within physical bounds.  The delivered energy moves with time
and not with rows: each interval adds the power of the latest row.
-/

namespace Telemetry.Generator

open Telemetry.Random

/-- a charging point -/
structure CityUtility where
  stationType : String
  voltage : FloatWalk
  current : FloatWalk
  temperature : FloatWalk
  energy : FloatCounter
  /-- the power of the latest row in kilowatts -/
  power : FloatWalk

namespace CityUtility

def name : String := "city_utility"

def tagKeys : List String := ["station_type"]

def fieldKeys : List String :=
  ["voltage", "current", "power", "energy_kwh", "temperature", "charging"]

/-- a charging point that has delivered nothing -/
def new (o : Overrides) : Choice CityUtility := do
  let stationType ← choose "ac_slow" ["dc_fast"]
  let voltage ← floatWithin 215.0 235.0
  let current ← floatWithin 0.0 100.0
  let temperature ← floatWithin 10.0 35.0
  return {
    stationType := o.getD name "station_type" stationType
    voltage := FloatWalk.start voltage 200.0 250.0 2.0
    current := FloatWalk.start current 0.0 250.0 5.0
    temperature := FloatWalk.start temperature (-10.0) 80.0 0.5
    energy := {}
    power := FloatWalk.start 0.0 0.0 62.5 0.0 }

/-- the charging point one interval later -/
def tick (g : CityUtility) (interval : Duration) : CityUtility :=
  { g with energy := g.energy.add (g.power.value * (interval.toSeconds / 3600.0)) }

/-- one row, added to a point -/
def emit (g : CityUtility) (p : Point) : Draw (Bool × Point × CityUtility) := do
  let p := p.setMeasurement name
  let p := p.appendTag tagKeys[0]! g.stationType
  let (voltage, voltageWalk) ← g.voltage.advance
  let (current, currentWalk) ← g.current.advance
  let power := voltage * current / 1000.0
  let p := p.appendField fieldKeys[0]! (.float voltage)
  let p := p.appendField fieldKeys[1]! (.float current)
  let p := p.appendField fieldKeys[2]! (.float power)
  let p := p.appendField fieldKeys[3]! (.float g.energy.value)
  let (temperature, temperatureWalk) ← g.temperature.advance
  let p := p.appendField fieldKeys[4]! (.float temperature)
  let p := p.appendField fieldKeys[5]! (.boolean ((← below 4) != 0))
  return (true, p,
    { g with
      voltage := voltageWalk
      current := currentWalk
      temperature := temperatureWalk
      power := g.power.set power })

end CityUtility

end Telemetry.Generator
