import Telemetry.Generator.Basic
import Telemetry.Word

/-!
# Entities

An entity is a source of rows: a host or a device with fixed tags and one generator per measurement.

* `Entity.numbered`   an entity whose number is a sum, unless the sum is no word;
* `Entity.advanceTo`  brings the time of every generator up to an epoch, one tick per epoch; an
                      epoch that is not ahead changes nothing;
* `Entity.emit?`      a row of one of the measurements.
-/

namespace Telemetry

open Telemetry.Random

/-- a source of rows -/
structure Entity where
  /-- the identity number -/
  index : UInt64
  tags : List Tag
  generators : List Generator
  /-- the epoch that the generators have been brought up to -/
  tickedEpoch : UInt64 := 0

namespace Entity

/-- the entity that is made from the number `index + offset`; where the sum is no word, building the
entity is cut off before any choice -/
def numbered (index offset : UInt64) (make : UInt64 → Choice Entity) : OptionT Choice Entity :=
  match Word.add? index offset with
  | some n => OptionT.lift (make n)
  | none => failure

/-- the value of the first tag with a key -/
def tag? (e : Entity) (key : String) : Option String := (e.tags.find? (·.key == key)).map (·.value)

/-- the tag keys in order -/
def tagKeys (e : Entity) : List String := e.tags.map (·.key)

/-- a point with the entity's tags added -/
def appendTags (e : Entity) (p : Point) : Point := { p with tags := p.tags ++ e.tags }

/-- every generator a number of intervals later; without generators there is nothing to repeat -/
def tickTimes (interval : Duration) : Nat → List Generator → List Generator
  | _, [] => []
  | 0, gs => gs
  | n + 1, gs => tickTimes interval n (gs.map (Generator.tick interval))

@[simp] theorem tickTimes_zero (interval : Duration) (gs : List Generator) :
    tickTimes interval 0 gs = gs := by
  cases gs <;> rfl

theorem tickTimes_succ (interval : Duration) (n : Nat) (gs : List Generator) :
    tickTimes interval (n + 1) gs = tickTimes interval n (gs.map (Generator.tick interval)) := by
  cases gs
  · cases n <;> rfl
  · rfl

/-- the number of epochs that an entity is behind -/
def behind (e : Entity) (epoch : UInt64) : Nat := epoch.toNat - e.tickedEpoch.toNat

def advanceTo (e : Entity) (epoch : UInt64) (interval : Duration) : Entity :=
  if e.tickedEpoch < epoch then
    { e with
      tickedEpoch := epoch
      generators := tickTimes interval (e.behind epoch) e.generators }
  else e

/-- a row of the measurement `slot`, added to a point -/
def emit? (e : Entity) (slot : Nat) (p : Point) : Option (Draw (Point × Entity)) :=
  (e.generators[slot]?).map fun g => do
    let (_, p', g') ← g.emit p
    return (p', { e with generators := e.generators.set slot g' })

end Entity

end Telemetry
