import Telemetry.Generator.Basic

/-!
# What a row adds

`emit` appends tags and fields to a point one by one, and draws in between.  What that comes to is
here, apart from any point.

* `tagValues`, `tags`   the values of the tags of a generator, and the tags under the keys;
* `advance`, `fields`   the values of the next row in the order of the field keys, with the generator
                        after it, and the fields under these keys;
* `added_appendTotals`  the totals of several counters, added to a point one by one;
* `Point.withRow`       a point with a row added, and the word that there is one;
* `emit_run`            what `emit` does: it adds the row that `advance` draws, under the name, the
                        tags and the field keys of the generator.
-/

namespace Telemetry

open Telemetry.Random

namespace Point

theorem added_appendAll {α : Type} (p : Point) (name : String) (tags : List Tag)
    (fields : List Field) (key : α → String) (value : α → FieldValue) (xs : List α) :
    xs.foldl (fun p x => p.appendField (key x) (value x)) (p.added name tags fields)
      = p.added name tags (fields ++ xs.map fun x => ⟨key x, value x⟩) := by
  induction xs generalizing fields with
  | nil => rw [List.foldl_nil, List.map_nil, List.append_nil]
  | cons x xs ih =>
    rw [List.foldl_cons, added_appendField, ih, List.append_assoc, List.map_cons]
    rfl

@[simp] theorem added_appendTotals {n : Nat} (p : Point) (name : String) (tags : List Tag)
    (fields : List Field) (keys : List String) (counters : Vector Counter n) :
    (p.added name tags fields).appendTotals keys counters
      = p.added name tags (fields
          ++ List.zipWith Field.mk keys (counters.toList.map fun c => .unsigned c.value)) := by
  rw [List.zipWith_map_right, ← List.map_uncurry_zip_eq_zipWith]
  exact added_appendAll p name tags fields Prod.fst
    (fun x : String × Counter => .unsigned x.2.value) _

/-- a row added to a point, from its values and what is left behind them: the name is set, tags and
fields are added, and it is said that there is a row -/
def withRow {α : Type} (p : Point) (name : String) (tags : List Tag) (keys : List String)
    (out : (List FieldValue × α) × Stream) : (Bool × Point × α) × Stream :=
  ((true, p.added name tags (List.zipWith Field.mk keys out.1.1), out.1.2), out.2)

end Point

namespace Generator

/-! ## tags -/

/-- the values of the tags that every row carries, in the order of the keys -/
def tagValues : Generator → List String
  | .cpu | .kernel _ | .mem _ => []
  | .disk g => [g.path, g.fstype]
  | .diskIo g => [g.serial]
  | .net g => [g.interface]
  | .nginx g => [g.port, g.server]
  | .redis g => [g.port, g.server]
  | .cityUtility g => [g.stationType]

/-- the tags that every row carries -/
def tags (g : Generator) : List Tag := List.zipWith Tag.mk g.kind.tagKeys g.tagValues

/-! ## values -/

/-- the ten percentages of two draws -/
def Cpu.values : Draw (List FieldValue) := do
  let word ← draw64
  let extra ← draw32
  return (List.range 9).map (fun i => percentage (bits word i.toUInt32 7))
    ++ [percentage (bits extra.toUInt64 0 7)]

def Disk.advance (g : Disk) : Draw (List FieldValue × Disk) := do
  let (free, freeWalk) ← g.free.advance
  let (inodesFree, inodesWalk) ← g.inodesFree.advance
  let used := g.total - free
  return (
    [.unsigned g.total, .unsigned free, .unsigned used,
      .float (used.toFloat * 100.0 / g.total.toFloat),
      .unsigned g.inodesTotal, .unsigned inodesFree, .unsigned (g.inodesTotal - inodesFree)],
    { g with free := freeWalk, inodesFree := inodesWalk })

def DiskIo.advance (g : DiskIo) : Draw (List FieldValue × DiskIo) := do
  let counters := addAll g.counters (amounts (← draw64))
  return (counters.toList.map fun c => .unsigned c.value, { g with counters := counters })

def Kernel.advance (g : Kernel) : Draw (List FieldValue × Kernel) := do
  let counters := addAll g.counters (amounts (← draw64))
  return (.integer g.bootTime :: counters.toList.map fun c => .unsigned c.value,
    { g with counters := counters })

/-- the values of a row of a memory -/
def Mem.row (total available buffered cached : UInt64) : List FieldValue :=
  let used := total - available
  [.unsigned total, .unsigned available, .unsigned used, .unsigned (available - buffered - cached),
    .unsigned cached, .unsigned buffered,
    .float (used.toFloat * 100.0 / total.toFloat),
    .float (available.toFloat * 100.0 / total.toFloat),
    .float (buffered.toFloat * 100.0 / total.toFloat)]

def Mem.advance (g : Mem) : Draw (List FieldValue × Mem) := do
  let (available, walk) ← g.available.advance
  let b ← unit
  let c ← unit
  let buffered := (available.toFloat * b * 0.1).toUInt64
  let cached := (available.toFloat * c * 0.5).toUInt64
  return (row g.total available buffered cached, { g with available := walk })

def Net.advance (g : Net) : Draw (List FieldValue × Net) := do
  let counters := addAll g.counters (amounts (← draw64))
  return (counters.toList.map fun c => .unsigned c.value, { g with counters := counters })

/-- a web server after one draw -/
def Nginx.after (g : Nginx) (word : UInt64) : Nginx :=
  { g with
    accepts := g.accepts.add (accepted word)
    handled := g.handled.add (accepted word - dropped word)
    requests := g.requests.add (requested word) }

def Nginx.advance (g : Nginx) : Draw (List FieldValue × Nginx) := do
  let word ← draw64
  let g' := g.after word
  return (
    [.unsigned g'.accepts.value, .unsigned g'.handled.value, .unsigned g'.requests.value,
      .unsigned (bitsAt word 15 10).toUInt64, .unsigned (bitsAt word 25 6).toUInt64,
      .unsigned (bitsAt word 31 6).toUInt64, .unsigned (bitsAt word 37 10).toUInt64],
    g')

def Redis.advance (g : Redis) : Draw (List FieldValue × Redis) := do
  let word ← draw64
  let gauges ← draw64
  let (clients, clientsWalk) ← g.clients.advance
  let (memory, memoryWalk) ← g.memory.advance
  let sys ← unit
  let user ← unit
  let g' := { g with
    stats := addAll g.stats (amounts word)
    clients := clientsWalk
    memory := memoryWalk
    cpuSys := g.cpuSys.add sys
    cpuUser := g.cpuUser.add user }
  return (
    .unsigned g.uptime :: (g'.stats.toList.map fun c => .unsigned c.value) ++
      [.unsigned (bits gauges 0 16).toUInt64, rate (bits gauges 1 16), rate (bits gauges 2 16),
        .unsigned clients, .unsigned memory, .float g'.cpuSys.value, .float g'.cpuUser.value],
    g')

def CityUtility.advance (g : CityUtility) : Draw (List FieldValue × CityUtility) := do
  let (voltage, voltageWalk) ← g.voltage.advance
  let (current, currentWalk) ← g.current.advance
  let power := voltage * current / 1000.0
  let (temperature, temperatureWalk) ← g.temperature.advance
  let charging ← below 4
  return (
    [.float voltage, .float current, .float power, .float g.energy.value, .float temperature,
      .boolean (charging != 0)],
    { g with
      voltage := voltageWalk
      current := currentWalk
      temperature := temperatureWalk
      power := g.power.set power })

/-- the values of the next row in the order of the field keys, and the generator after it -/
def advance : Generator → Draw (List FieldValue × Generator)
  | .cpu => return (← Cpu.values, .cpu)
  | .disk g => return (← g.advance).map id .disk
  | .diskIo g => return (← g.advance).map id .diskIo
  | .kernel g => return (← g.advance).map id .kernel
  | .mem g => return (← g.advance).map id .mem
  | .net g => return (← g.advance).map id .net
  | .nginx g => return (← g.advance).map id .nginx
  | .redis g => return (← g.advance).map id .redis
  | .cityUtility g => return (← g.advance).map id .cityUtility

/-- the fields of a row with the given values -/
def fields (g : Generator) (values : List FieldValue) : List Field :=
  List.zipWith Field.mk g.kind.fieldKeys values

/-! ## rows -/

section
variable (p : Point) (s : Stream)

theorem Cpu.emit_run :
    (Cpu.emit p).run s
      = ((true, p.added name [] (List.zipWith Field.mk fieldKeys (Cpu.values.run s).1)),
          (Cpu.values.run s).2) := by
  show (((true, List.foldl _ (p.setMeasurement name) _) : Bool × Point), _) = _
  rw [Point.setMeasurement_eq_added]
  rw [Point.added_appendAll]
  rfl

theorem Disk.emit_run (g : Disk) :
    (g.emit p).run s = p.withRow name (Generator.disk g).tags fieldKeys (g.advance.run s) := by
  simp only [emit, Point.setMeasurement_eq_added, Point.added_appendTag, Point.added_appendField]
  rfl

theorem DiskIo.emit_run (g : DiskIo) :
    (g.emit p).run s = p.withRow name (Generator.diskIo g).tags fieldKeys (g.advance.run s) := by
  simp only [emit, Point.setMeasurement_eq_added, Point.added_appendTag, Point.added_appendTotals]
  rfl

theorem Kernel.emit_run (g : Kernel) :
    (g.emit p).run s = p.withRow name (Generator.kernel g).tags fieldKeys (g.advance.run s) := by
  simp only [emit, Point.setMeasurement_eq_added, Point.added_appendField, Point.added_appendTotals]
  rfl

theorem Mem.emit_run (g : Mem) :
    (g.emit p).run s = p.withRow name (Generator.mem g).tags fieldKeys (g.advance.run s) := by
  simp only [emit, Point.setMeasurement_eq_added, Point.added_appendField]
  rfl

theorem Net.emit_run (g : Net) :
    (g.emit p).run s = p.withRow name (Generator.net g).tags fieldKeys (g.advance.run s) := by
  simp only [emit, Point.setMeasurement_eq_added, Point.added_appendTag, Point.added_appendTotals]
  rfl

theorem Nginx.emit_run (g : Nginx) :
    (g.emit p).run s = p.withRow name (Generator.nginx g).tags fieldKeys (g.advance.run s) := by
  simp only [emit, Point.setMeasurement_eq_added, Point.added_appendTag, Point.added_appendField]
  rfl

/-- the keys of a store: those of the five totals stand behind the first one -/
theorem Redis.zipWith_fieldKeys (first : FieldValue) {totals : List FieldValue}
    (h : totals.length = 5) (last : List FieldValue) :
    List.zipWith Field.mk fieldKeys (first :: totals ++ last)
      = ⟨fieldKeys[0]!, first⟩ :: (List.zipWith Field.mk (fieldKeys.extract 1 6) totals
          ++ List.zipWith Field.mk (fieldKeys.extract 6 13) last) := by
  rw [← List.zipWith_append (by rw [h]; rfl)]
  rfl

theorem Redis.emit_run (g : Redis) :
    (g.emit p).run s = p.withRow name (Generator.redis g).tags fieldKeys (g.advance.run s) := by
  have hlength : ((addAll g.stats (amounts (draw64.run s).1)).toList.map fun c =>
      FieldValue.unsigned c.value).length = 5 := by
    rw [List.length_map, Vector.length_toList]
  have hfields : List.zipWith Field.mk fieldKeys (g.advance.run s).1.1 = _ :=
    zipWith_fieldKeys _ hlength _
  rw [Point.withRow, hfields]
  simp only [emit, Point.setMeasurement_eq_added, Point.added_appendTag, Point.added_appendField,
    Point.added_appendTotals, List.append_assoc]
  rfl

theorem CityUtility.emit_run (g : CityUtility) :
    (g.emit p).run s
      = p.withRow name (Generator.cityUtility g).tags fieldKeys (g.advance.run s) := by
  simp only [emit, Point.setMeasurement_eq_added, Point.added_appendTag, Point.added_appendField]
  rfl

/-- **One row**: what the point has stays in front, and the generator's tags and one field per field
key are added behind. -/
theorem emit_run (g : Generator) :
    (g.emit p).run s
      = ((true,
            { p with
              measurement := g.kind.name
              tags := p.tags ++ g.tags
              fields := p.fields ++ g.fields (g.advance.run s).1.1 },
            (g.advance.run s).1.2),
          (g.advance.run s).2) := by
  cases g with
  | cpu => exact congrArg (Prod.map (Prod.map id (·, Generator.cpu)) id) (Cpu.emit_run p s)
  | disk g =>
    exact congrArg (Prod.map (Prod.map id (Prod.map id Generator.disk)) id) (g.emit_run p s)
  | diskIo g =>
    exact congrArg (Prod.map (Prod.map id (Prod.map id Generator.diskIo)) id) (g.emit_run p s)
  | kernel g =>
    exact congrArg (Prod.map (Prod.map id (Prod.map id Generator.kernel)) id) (g.emit_run p s)
  | mem g =>
    exact congrArg (Prod.map (Prod.map id (Prod.map id Generator.mem)) id) (g.emit_run p s)
  | net g =>
    exact congrArg (Prod.map (Prod.map id (Prod.map id Generator.net)) id) (g.emit_run p s)
  | nginx g =>
    exact congrArg (Prod.map (Prod.map id (Prod.map id Generator.nginx)) id) (g.emit_run p s)
  | redis g =>
    exact congrArg (Prod.map (Prod.map id (Prod.map id Generator.redis)) id) (g.emit_run p s)
  | cityUtility g =>
    exact congrArg (Prod.map (Prod.map id (Prod.map id Generator.cityUtility)) id) (g.emit_run p s)

end

end Generator

end Telemetry
