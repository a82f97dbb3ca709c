import Telemetry.Decimal.Natural
import Telemetry.Generator.Counter
import Telemetry.Overrides
import Telemetry.Point.Basic
import Telemetry.Random.Attribute
import Telemetry.Random.Slice

/-!
# Web servers

Connections that were accepted and handled and the requests on them are totals; the connections
that are active, reading, writing and waiting are drawn anew for every row.  All come from disjoint
slices of one draw.
-/

namespace Telemetry.Generator

open Telemetry.Random

/-- a web server -/
structure Nginx where
  port : String
  server : String
  accepts : Counter
  handled : Counter
  requests : Counter

namespace Nginx

def name : String := "nginx"

def tagKeys : List String := ["port", "server"]

def fieldKeys : List String :=
  ["accepts", "handled", "requests", "active", "reading", "writing", "waiting"]

/-- a server that has accepted nothing -/
def new (o : Overrides) : Choice Nginx := do
  let n ← within 0 99999
  let server := "nginx_" ++ String.ofList (Decimal.digits n)
  return ⟨o.getD name "port" "80", o.getD name "server" server, {}, {}, {}⟩

/-- the connections that one draw adds -/
def accepted (word : UInt64) : UInt64 := (bitsAt word 0 8).toUInt64

/-- one connection in about sixteen rows is accepted and not handled -/
def dropped (word : UInt64) : UInt64 :=
  if bitsAt word 8 4 = 0 ∧ 0 < accepted word then 1 else 0

/-- the requests that one draw adds: one to eight per connection -/
def requested (word : UInt64) : UInt64 := accepted word * (1 + (bitsAt word 12 3).toUInt64)

/-- one row, added to a point -/
def emit (g : Nginx) (p : Point) : Draw (Bool × Point × Nginx) := do
  let p := p.setMeasurement name
  let p := p.appendTag tagKeys[0]! g.port
  let p := p.appendTag tagKeys[1]! g.server
  let word ← draw64
  let accepts := g.accepts.add (accepted word)
  let handled := g.handled.add (accepted word - dropped word)
  let requests := g.requests.add (requested word)
  let p := p.appendField fieldKeys[0]! (.unsigned accepts.value)
  let p := p.appendField fieldKeys[1]! (.unsigned handled.value)
  let p := p.appendField fieldKeys[2]! (.unsigned requests.value)
  let p := p.appendField fieldKeys[3]! (.unsigned (bitsAt word 15 10).toUInt64)
  let p := p.appendField fieldKeys[4]! (.unsigned (bitsAt word 25 6).toUInt64)
  let p := p.appendField fieldKeys[5]! (.unsigned (bitsAt word 31 6).toUInt64)
  let p := p.appendField fieldKeys[6]! (.unsigned (bitsAt word 37 10).toUInt64)
  return (true, p, { g with accepts := accepts, handled := handled, requests := requests })

end Nginx

end Telemetry.Generator
