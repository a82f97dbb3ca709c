import Telemetry.Proofs.Generator.Schema

/-!
# Forced tag values

A generator that is built with overrides is the generator that is built without them, with the
values of its tags replaced: the choices, the state, the draws and the fields are the same.

* `Generator.force o g`  the generator with its tag values replaced as the table says;
* `new_force`            overrides do nothing but that while a generator is built;
* `force_tick`, `force_advance`  and nothing depends on them afterwards;
* `tags_force`           the tags of every row: the forced values, and the others as they were.
-/

namespace Telemetry

open Telemetry.Random

namespace Overrides

/-- a tag with the value that the table forces, if there is one -/
def forceTag (o : Overrides) (measurement : String) (t : Tag) : Tag :=
  { t with value := o.getD measurement t.key t.value }

theorem getD_empty (m t d : String) : ({} : Overrides).getD m t d = d := rfl

theorem getD_eq_of_get? {o : Overrides} {m t v : String} (h : o.get? m t = some v) (d : String) :
    o.getD m t d = v := by
  rw [getD, h, Option.getD_some]

theorem getD_congr {o o' : Overrides} {m t : String} (h : o.get? m t = o'.get? m t) (d : String) :
    o.getD m t d = o'.getD m t d := by
  rw [getD, h, getD]

end Overrides

namespace Generator

section
variable (o : Overrides)

def Disk.force (g : Disk) : Disk :=
  { g with path := o.getD name "path" g.path, fstype := o.getD name "fstype" g.fstype }

def DiskIo.force (g : DiskIo) : DiskIo := { g with serial := o.getD name "serial" g.serial }

def Net.force (g : Net) : Net := { g with interface := o.getD name "interface" g.interface }

def Nginx.force (g : Nginx) : Nginx :=
  { g with port := o.getD name "port" g.port, server := o.getD name "server" g.server }

def Redis.force (g : Redis) : Redis :=
  { g with port := o.getD name "port" g.port, server := o.getD name "server" g.server }

def CityUtility.force (g : CityUtility) : CityUtility :=
  { g with stationType := o.getD name "station_type" g.stationType }

/-- the generator with its tag values replaced as a table says -/
def force : Generator → Generator
  | .disk g => .disk (g.force o)
  | .diskIo g => .diskIo (g.force o)
  | .net g => .net (g.force o)
  | .nginx g => .nginx (g.force o)
  | .redis g => .redis (g.force o)
  | .cityUtility g => .cityUtility (g.force o)
  | g => g

/-! ## one kind at a time -/

theorem Disk.new_force : Disk.new o = Disk.force o <$> Disk.new {} := by
  simp only [new, map_bind, map_pure, force, Overrides.getD_empty]

theorem DiskIo.new_force : DiskIo.new o = DiskIo.force o <$> DiskIo.new {} := by
  simp only [new, map_bind, map_pure, force, Overrides.getD_empty]

theorem Nginx.new_force : Nginx.new o = Nginx.force o <$> Nginx.new {} := by
  simp only [new, map_bind, map_pure, force, Overrides.getD_empty]

theorem Redis.new_force : Redis.new o = Redis.force o <$> Redis.new {} := by
  simp only [new, map_bind, map_pure, force, Overrides.getD_empty]

theorem CityUtility.new_force : CityUtility.new o = CityUtility.force o <$> CityUtility.new {} := by
  simp only [new, map_bind, map_pure, force, Overrides.getD_empty]

theorem Redis.force_tick (g : Redis) (interval : Duration) :
    (g.force o).tick interval = (g.tick interval).force o := by
  rw [tick, tick, force, force]

theorem CityUtility.force_tick (g : CityUtility) (interval : Duration) :
    (g.force o).tick interval = (g.tick interval).force o := by
  rw [tick, tick, force, force]

theorem Nginx.force_after (g : Nginx) (word : UInt64) :
    (g.force o).after word = (g.after word).force o := by
  rw [after, after, force, force]

theorem Nginx.force_advance (g : Nginx) (s : Stream) :
    (g.force o).advance.run s
      = (((g.advance.run s).1.1, (g.advance.run s).1.2.force o), (g.advance.run s).2) := by
  simp only [advance, force_after]
  rfl

end

/-! ## all kinds -/

section
variable (o : Overrides) (g : Generator)

theorem kind_force : (g.force o).kind = g.kind := by
  cases g <;> rfl

/-- the tags of every row: the forced values, and the others as they were -/
theorem tags_force : (g.force o).tags = g.tags.map (o.forceTag g.kind.name) := by
  cases g <;> rfl

theorem force_tick (interval : Duration) :
    (g.force o).tick interval = (g.tick interval).force o := by
  cases g with
  | redis g => exact congrArg redis (g.force_tick o interval)
  | cityUtility g => exact congrArg cityUtility (g.force_tick o interval)
  | _ => rfl

/-- no field and no draw depends on a tag value -/
theorem force_advance (s : Stream) :
    (g.force o).advance.run s
      = (((g.advance.run s).1.1, (g.advance.run s).1.2.force o), (g.advance.run s).2) := by
  cases g with
  | nginx g =>
    show (Prod.map (Prod.map id nginx) id ((g.force o).advance.run s)) = _
    rw [g.force_advance o s]
    rfl
  | _ => rfl

/-- **Overrides replace tag values** and do nothing else: a generator takes the same choices with
any table as with the empty one. -/
theorem new_force (kind : Kind) (start : Int64) :
    Generator.new kind start o = force o <$> Generator.new kind start {} := by
  cases kind with
  | cpu => rfl
  | disk => simp only [new, map_bind, map_pure, Disk.new_force o, bind_map_left, force]
  | diskIo => simp only [new, map_bind, map_pure, DiskIo.new_force o, bind_map_left, force]
  | kernel => simp only [new, map_bind, map_pure, force]
  | mem => simp only [new, map_bind, map_pure, force]
  | net => rfl
  | nginx => simp only [new, map_bind, map_pure, Nginx.new_force o, bind_map_left, force]
  | redis => simp only [new, map_bind, map_pure, Redis.new_force o, bind_map_left, force]
  | cityUtility =>
    simp only [new, map_bind, map_pure, CityUtility.new_force o, bind_map_left, force]

end

end Generator

end Telemetry
