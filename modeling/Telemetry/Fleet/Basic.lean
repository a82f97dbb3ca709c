import Telemetry.Entity.Device
import Telemetry.Entity.Host
import Telemetry.Error
import Telemetry.Memory
import Telemetry.Template.Render
import Telemetry.Word

/-!
# Fleets

A fleet lets its entities report in turn, epoch by epoch, over a window of time.  Row number `i` of
a fleet of `E` entities with `M` measurements each comes from

* entity       `(i / M) mod E`,
* measurement  `i mod M`,
* epoch        `i / (E · M)`, whose time is `start + epoch · interval`.

* `Fleet.ofEntities`     a fleet, if the entities have one schema and the rows can be counted;
* `Fleet.hosts`, `Fleet.devices`  fleets of hosts and of charge devices, unless the number of an
                         entity overflows;
* `Fleet.hosts?`         a fleet of hosts, unless there is no memory to list them;
* `Fleet.next`           the next row, and `Fleet.next?` the same, unless its number overflows;
* `Fleet.skip`           the next rows, without looking at them;
* `Fleet.now`            the time up to which all rows are known to be stored.
-/

namespace Telemetry

open Telemetry.Random

/-- entities that report over a window, and how far they have come -/
structure Fleet where
  entities : Array Entity
  /-- the tag keys of every entity, in order -/
  tagKeys : List String
  /-- the number of measurements of every entity -/
  slots : UInt64
  rowsPerEpoch : UInt64
  window : Window
  interval : Duration
  intervalNanos : Int64
  epochs : UInt64
  /-- the number of rows in the window -/
  total : UInt64
  /-- the number of rows that were asked for -/
  made : UInt64 := 0
  /-- the number of field values in the rows so far -/
  values : UInt64 := 0
  /-- the number of queries that were asked for -/
  queries : UInt64 := 0
  /-- the largest number of rows that was reported as stored -/
  written : UInt64 := 0
  templates : List Template := []

namespace Fleet

/-! ## building -/

/-- a duration in nanoseconds, if it is not zero and fits in 64 signed bits -/
def intervalNanos? (interval : Duration) : Option Int64 :=
  if interval.isZero then none else Word.signed? (interval.toNanos : Int)

/-- whether an entity has a number of measurements and a list of tag keys -/
def fits (slots : Nat) (keys : List String) (e : Entity) : Bool :=
  e.generators.length == slots && e.tagKeys == keys

/-- the number of epochs that start within a span -/
def epochCount (span step : Nat) : Nat := (span + step - 1) / step

def ofEntities (entities : List Entity) (window : Window) (interval : Duration) :
    Except ConfigFault Fleet :=
  match entities with
  | [] => .error .noEntities
  | first :: _ =>
    let slots := first.generators.length
    let keys := first.tagKeys
    if slots = 0 then .error .noMeasurements
    else if !entities.all (fits slots keys) then .error .unequalEntities
    else
      match intervalNanos? interval with
      | none => .error (.badInterval interval)
      | some step =>
        if window.isEmpty then .error (.emptyWindow window)
        else
          match window.length? with
          | none => .error (.wideWindow window)
          | some span =>
            let epochs := epochCount span.toInt.toNat step.toInt.toNat
            let rows := entities.length.toUInt64 * slots.toUInt64
            if rows.toNat * epochs < UInt64.size then
              .ok {
                entities := entities.toArray
                tagKeys := keys
                slots := slots.toUInt64
                rowsPerEpoch := rows
                window := window
                interval := interval
                intervalNanos := step
                epochs := epochs.toUInt64
                total := rows * epochs.toUInt64 }
            else .error .tooManyPoints

/-- builds the entities number 0 to `count - 1` in order -/
def build (count : UInt64) (entity : UInt64 → OptionT Choice Entity) :
    OptionT Choice (List Entity) :=
  (List.range count.toNat).mapM fun i => entity i.toUInt64

/-- what a fleet of hosts is built from -/
structure Hosts where
  window : Window := ⟨0, 0⟩
  interval : Duration := .ofSeconds 10
  count : UInt64 := 100
  /-- the identity number of the first host -/
  offset : UInt64 := 0
  kinds : List Kind := Kind.hostKinds
  overrides : Overrides := {}

def hosts (c : Hosts) : OptionT Choice (Except ConfigFault Fleet) := do
  let entities ← build c.count fun i => Host.new i c.offset c.window.start c.kinds c.overrides
  return ofEntities entities c.window c.interval

/-- the bytes that are set aside for each entity -/
def bytesPerEntity : Nat := 64

/-- whether memory for the hosts can be set aside -/
def Hosts.hasRoom (c : Hosts) : Bool := Memory.fits c.count.toNat bytesPerEntity

/-- a fleet of hosts; where there is no memory to list them, no host is built -/
def hosts? (c : Hosts) : OptionT Choice (Except ConfigFault Fleet) :=
  if c.hasRoom then hosts c else failure

/-- what a fleet of charge devices is built from -/
structure Devices where
  window : Window := ⟨0, 0⟩
  interval : Duration := .ofSeconds 10
  count : UInt64 := 1000
  /-- the identity number of the first device -/
  offset : UInt64 := 0
  /-- consecutive devices at one site -/
  perSite : UInt64 := 10
  overrides : Overrides := {}

/-- a fleet of charge devices; without any device there is nothing to check about sites.  Memory is
set aside device by device, so their number alone rules out nothing. -/
def devices (c : Devices) (regions : RegionTable) : OptionT Choice (Except ConfigFault Fleet) :=
  match if c.count = 0 then .ok () else Device.check regions c.perSite with
  | .error e => return .error e
  | .ok () => do
    let entities ← build c.count fun i =>
      Device.new i c.offset c.window.start c.perSite regions c.overrides
    return ofEntities entities c.window c.interval

/-! ## progress -/

/-- the time of an epoch -/
def epochTime (f : Fleet) (epoch : UInt64) : Int64 :=
  f.window.start + epoch.toInt64 * f.intervalNanos

/-- the same time, unless it or the time since the start overflows -/
def epochTime? (f : Fleet) (epoch : UInt64) : Option Int64 := do
  let passed ← Word.signed? (epoch.toInt64.toInt * f.intervalNanos.toInt)
  Word.signed? (f.window.start.toInt + passed.toInt)

/-- the number of rows made so far -/
def seenPoints (f : Fleet) : UInt64 := min f.made f.total

/-- whether all rows have been made -/
def finished (f : Fleet) : Bool := f.total ≤ f.seenPoints

/-- takes note that a number of rows is stored; a smaller number than before changes nothing -/
def setWritten (f : Fleet) (count : UInt64) : Fleet := { f with written := max f.written count }

/-- the time up to which all rows are stored: the start of the first epoch with a row that is not -/
def now (f : Fleet) : Int64 :=
  let stored := f.written / f.rowsPerEpoch
  if f.epochs ≤ stored then f.window.stop else min (f.epochTime stored) f.window.stop

/-! ## rows -/

/-- the entity, the measurement and the epoch of row number `i` -/
structure Place where
  entity : Nat
  slot : Nat
  epoch : UInt64
deriving DecidableEq, Repr

/-- the place of row number `i` -/
def place (f : Fleet) (i : UInt64) : Place where
  entity := (i / f.slots % f.entities.size.toUInt64).toNat
  slot := (i % f.slots).toNat
  epoch := i / f.rowsPerEpoch

/-- the row of a place, added to a point, with its entity brought up to the epoch before -/
def rowAt (f : Fleet) (spot : Place) (p : Point) : Draw (Point × Fleet) :=
  match f.entities[spot.entity]? with
  | none => return (p, f)
  | some entity =>
    let entity := entity.advanceTo spot.epoch f.interval
    match entity.generators[spot.slot]? with
    | none => return (p, f)
    | some g => do
      let p := (p.setTimestamp (f.epochTime spot.epoch)).setMeasurement g.kind.name
      let p := entity.appendTags p
      let (_, row, g') ← g.emit p
      let entity := { entity with generators := entity.generators.set spot.slot g' }
      return (row,
        { f with
          entities := f.entities.setIfInBounds spot.entity entity
          values := f.values + (row.fields.length - p.fields.length).toUInt64 })

/-- the number of the next row, and the row added to a point; past the last row the point stays -/
def next (f : Fleet) (p : Point) : Draw (UInt64 × Point × Fleet) :=
  let number := f.made + 1
  let f := { f with made := number }
  if f.total < number then return (number, p, f)
  else do
    let (row, f) ← f.rowAt (f.place (number - 1)) p
    return (number, row, f)

/-- the same call, which is cut off where the number of the row is no word -/
def next? (f : Fleet) (p : Point) : OptionT Draw (UInt64 × Point × Fleet) :=
  match Word.add? f.made 1 with
  | some _ => OptionT.lift (f.next p)
  | none => failure

/-- the number of the last of some next rows, without looking at them; without any it is `last` -/
def skipAfter (last : UInt64) (f : Fleet) : Nat → OptionT Draw (UInt64 × Fleet)
  | 0 => return (last, f)
  | n + 1 => do
    let (number, _, f) ← f.next? {}
    skipAfter number f n

/-- the number of the last of the next `n` rows; rows count from one, so no rows answer zero -/
def skip (f : Fleet) (n : Nat) : OptionT Draw (UInt64 × Fleet) := f.skipAfter 0 n

/-! ## queries -/

/-- the values that templates draw from -/
def source (f : Fleet) : Template.Source where
  count := f.entities.size.toUInt64
  value? := fun entity key => do
    let e ← f.entities[entity]?
    let t ← e.tags[key]?
    return t.value
  start := f.window.start
  stop := f.window.stop
  now := f.now

/-- parses templates in order, up to the first bad one -/
def parseAll (keys : List String) (times : Nat) : List String → Except Fault (List Template)
  | [] => .ok []
  | t :: rest =>
    match Template.parse t keys times with
    | .error e => .error e
    | .ok parsed => (parseAll keys times rest).map (parsed :: ·)

/-- the fleet with new templates; where one is bad, the old ones stay -/
def install (f : Fleet) (templates : List String) (times : Nat) : Except Fault Fleet :=
  if templates.isEmpty then .error .noTemplates
  else (parseAll f.tagKeys times templates).map fun ts => { f with templates := ts }

/-- why there is no query -/
inductive QueryStop where
  | noTemplates
  | stopped (why : Template.Stop)
deriving DecidableEq, Repr

/-- writes an instance of the template whose turn it is, and answers its number -/
def nextQuery (f : Fleet) (sink : Sink) : Draw (Except QueryStop UInt64 × Sink × Fleet) :=
  match f.templates with
  | [] => return (.error .noTemplates, sink, f)
  | first :: rest => do
    let number := f.queries + 1
    let turn := (number - 1) % (rest.length + 1).toUInt64
    let template := ((first :: rest)[turn.toNat]?).getD first
    let (done, sink) ← template.write f.source sink
    let answer := match done with
      | .ok () => .ok number
      | .error why => .error (.stopped why)
    return (answer, sink, { f with queries := number })

/-- the same call, which is cut off where there are templates and the number of the query is no
word -/
def nextQuery? (f : Fleet) (sink : Sink) :
    OptionT Draw (Except QueryStop UInt64 × Sink × Fleet) :=
  match f.templates, Word.add? f.queries 1 with
  | _ :: _, none => failure
  | _, _ => OptionT.lift (f.nextQuery sink)

end Fleet

end Telemetry
