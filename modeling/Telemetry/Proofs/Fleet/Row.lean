import Telemetry.Proofs.Fleet.Built
import Telemetry.Proofs.Generator.Schema

/-!
# One row of a fleet

What `next` does, in one equation for a row and one for a call past the last row.

* `rowOf`         the row of a generator of an entity at a time, added to a point;
* `rowAt_run`     the row of a place, the fleet after it and the draws that are left;
* `next_row`      the next row while there is one;
* `next_past`     past the last row only the number moves;
* `next?_run`, `next?_lost`  the call that can be cut off: where the number is a word it is the same.
-/

namespace Telemetry

open Telemetry.Random

/-- a point with a row of a generator of an entity added, as one run of draws makes it -/
def rowOf (e : Entity) (g : Generator) (time : Int64) (p : Point) (s : Stream) : Point where
  measurement := g.kind.name
  timestamp := time
  tags := p.tags ++ e.tags ++ g.tags
  fields := p.fields ++ g.fields (g.advance.run s).1.1

/-- an entity whose generator in a slot has made a row -/
def Entity.after (e : Entity) (slot : Nat) (g : Generator) (s : Stream) : Entity :=
  { e with generators := e.generators.set slot (g.advance.run s).1.2 }

/-! ## entities -/

namespace Entity
variable (e : Entity) (epoch : UInt64) (interval : Duration)

theorem advanceTo_of_le {e : Entity} {epoch : UInt64} (h : epoch ≤ e.tickedEpoch)
    (interval : Duration) : e.advanceTo epoch interval = e := by
  rw [advanceTo, if_neg]
  rw [UInt64.lt_iff_toNat_lt]
  have hle := UInt64.le_iff_toNat_le.1 h
  omega

theorem tags_advanceTo : (e.advanceTo epoch interval).tags = e.tags := by
  unfold advanceTo
  split <;> rfl

theorem index_advanceTo : (e.advanceTo epoch interval).index = e.index := by
  unfold advanceTo
  split <;> rfl

theorem map_label_tickTimes (n : Nat) (gs : List Generator) :
    (tickTimes interval n gs).map Generator.label = gs.map Generator.label := by
  induction n generalizing gs with
  | zero => rw [tickTimes_zero]
  | succ n ih =>
    rw [tickTimes_succ, ih, List.map_map]
    exact List.map_congr_left fun g _ => Generator.label_tick interval g

theorem map_label_advanceTo :
    (e.advanceTo epoch interval).generators.map Generator.label
      = e.generators.map Generator.label := by
  unfold advanceTo
  split
  · exact map_label_tickTimes interval _ _
  · rfl

end Entity

/-- bringing an entity up to an epoch does not change what its tags add -/
theorem rowOf_advanceTo (e : Entity) (epoch : UInt64) (interval : Duration) (g : Generator)
    (time : Int64) (p : Point) (s : Stream) :
    rowOf (e.advanceTo epoch interval) g time p s = rowOf e g time p s := by
  rw [rowOf, Entity.tags_advanceTo, rowOf]

namespace Fleet

/-- the fleet after a number was handed out -/
def count (f : Fleet) : Fleet := { f with made := f.made + 1 }

/-- the fleet with another entity in a place -/
def put (f : Fleet) (i : Nat) (e : Entity) : Fleet :=
  { f with entities := f.entities.setIfInBounds i e }

/-- the fleet after an entity has made a row of some values -/
def store (f : Fleet) (i : Nat) (e : Entity) (values : Nat) : Fleet :=
  { f.put i e with values := f.values + values.toUInt64 }

/-! ## the row of a place -/

section
variable {f : Fleet} {spot : Place} {e : Entity} {g : Generator}

/-- **The row of a place**: the entity is brought up to the epoch, and its generator in the slot
adds a row; the values are counted by the field keys of the generator's kind. -/
theorem rowAt_run (he : f.entities[spot.entity]? = some e)
    (hg : (e.advanceTo spot.epoch f.interval).generators[spot.slot]? = some g)
    (p : Point) (s : Stream) :
    (f.rowAt spot p).run s
      = ((rowOf e g (f.epochTime spot.epoch) p s,
          f.store spot.entity ((e.advanceTo spot.epoch f.interval).after spot.slot g s)
            g.kind.fieldKeys.length),
        (g.advance.run s).2) := by
  have hlength : (p.fields ++ g.fields (g.advance.run s).1.1).length - p.fields.length
      = g.kind.fieldKeys.length := by
    rw [List.length_append, ← Generator.keys_fields g s, List.length_map]
    omega
  unfold rowAt
  rw [he, ← rowOf_advanceTo e spot.epoch f.interval, ← hlength]
  simp only
  rw [hg]
  simp only [StateT.run_bind, Generator.emit_run]
  rfl

theorem next_eq (f : Fleet) (p : Point) :
    f.next p = if f.total < f.made + 1 then return (f.made + 1, p, f.count) else do
      let (row, f') ← f.count.rowAt (f.place f.made) p
      return (f.made + 1, row, f') := by
  have hmade : f.made + 1 - 1 = f.made := UInt64.add_sub_cancel f.made 1
  unfold next
  simp only
  rw [hmade]
  rfl

/-- past the last row only the number moves -/
theorem next_past (h : f.total < f.made + 1) (p : Point) (s : Stream) :
    (f.next p).run s = ((f.made + 1, p, f.count), s) := by
  rw [next_eq, if_pos h]
  rfl

/-- the next row is the row of the place of its number -/
theorem next_row (h : ¬ f.total < f.made + 1) (hspot : f.place f.made = spot)
    (he : f.entities[spot.entity]? = some e)
    (hg : (e.advanceTo spot.epoch f.interval).generators[spot.slot]? = some g)
    (p : Point) (s : Stream) :
    (f.next p).run s
      = ((f.made + 1, rowOf e g (f.epochTime spot.epoch) p s,
          f.count.store spot.entity ((e.advanceTo spot.epoch f.interval).after spot.slot g s)
            g.kind.fieldKeys.length),
        (g.advance.run s).2) := by
  have hrow := @rowAt_run f.count spot e g he hg p s
  rw [next_eq, if_neg h, hspot, StateT.run_bind, hrow]
  rfl

end

/-! ## numbers that overflow -/

theorem next?_run {f : Fleet} (h : f.made.toNat + 1 < UInt64.size) (p : Point) (s : Stream) :
    (f.next? p).run.run s = (some ((f.next p).run s).1, ((f.next p).run s).2) := by
  have hsum : Word.add? f.made 1 = some (f.made + 1) := Word.add?_eq_some h
  rw [next?, hsum]
  rfl

theorem next?_lost {f : Fleet} (h : UInt64.size ≤ f.made.toNat + 1) (p : Point) (s : Stream) :
    (f.next? p).run.run s = (none, s) := by
  have hsum : Word.add? f.made 1 = none := Word.add?_eq_none h
  rw [next?, hsum]
  rfl

end Fleet

end Telemetry
