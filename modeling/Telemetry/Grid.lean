import Telemetry.Decimal.Natural
import Telemetry.Error
import Telemetry.Memory
import Telemetry.Point.Basic
import Telemetry.Random.Draw

/-!
# Tag grids

Rows over two tags, each with the same number of values, so that all pairs of values come up in
turn.  The rows step through a window of time evenly; there are as many as asked for, with at least
a nanosecond between them.

* `Grid.Plan`    what a grid is built from;
* `Grid.build`   the grid, unless the plan has no rows, no values or no time;
* `Grid.list?`   the same grid, unless there is no memory to list the values of its tags;
* `Grid.next`    the next row, unless its time or its number overflows;
* `Grid.skip`    the next rows, without looking at them.
-/

namespace Telemetry

open Telemetry.Random

/-- rows over two tags, and how far they have come -/
structure Grid where
  /-- the number of values of each tag -/
  axis : UInt64
  start : Int64
  /-- nanoseconds between two rows -/
  step : Int64
  /-- the number of rows that were asked for -/
  made : UInt64 := 0
  /-- the number of rows -/
  total : UInt64
deriving DecidableEq, Repr

namespace Grid

/-- what a grid is built from -/
structure Plan where
  axis : UInt64 := 100
  points : UInt64 := 10000
  window : Window := ⟨0, 0⟩
deriving DecidableEq, Repr

/-- the time between two rows: the window in equal parts, and at least one nanosecond -/
def stepOf (span points : UInt64) : Int64 := (max (span / points) 1).toInt64

def build (plan : Plan) : Except ConfigFault Grid :=
  if plan.axis = 0 then .error .zeroAxis
  else if plan.points = 0 then .error .zeroPoints
  else if plan.window.isEmpty then .error (.emptyWindow plan.window)
  else
    match plan.window.length? with
    | none => .error (.wideWindow plan.window)
    | some span =>
      .ok {
        axis := plan.axis
        start := plan.window.start
        step := stepOf span.toUInt64 plan.points
        total := plan.points }

/-- the bytes that are set aside for each value of a tag -/
def bytesPerValue : Nat := 16

/-- whether memory for the values of a tag can be set aside -/
def hasRoom (g : Grid) : Bool := Memory.fits g.axis.toNat bytesPerValue

/-- what came of building a grid; `none` if there is no memory to list the values of its tags, which
are listed last -/
def list? {ε : Type} : Except ε Grid → Option (Except ε Grid)
  | .ok g => if g.hasRoom then some (.ok g) else none
  | .error e => some (.error e)

/-- the measurement name of the rows -/
def measurement : String := "metaquery"

/-- the first tag's value number `i` -/
def valueA (i : UInt64) : String := "a_" ++ String.ofList (Decimal.digits i.toNat)

/-- the second tag's value number `i` -/
def valueB (i : UInt64) : String := "b_" ++ String.ofList (Decimal.digits i.toNat)

/-- the keys of the tags of a row, in order -/
def tagKeys : List String := ["tag_a", "tag_b"]

/-- the key of the field of a row -/
def fieldKeys : List String := ["value"]

/-- the time of row number `i`, unless it or the time since the start overflows -/
def time? (g : Grid) (i : UInt64) : Option Int64 := do
  let passed ← Word.signed? (i.toInt64.toInt * g.step.toInt)
  Word.signed? (g.start.toInt + passed.toInt)

/-- row number `i` with a time and a field, added to a point -/
def fill (g : Grid) (i : UInt64) (t : Int64) (x : Float) (p : Point) : Point :=
  let p := (p.setTimestamp t).setMeasurement measurement
  let p := p.appendTag tagKeys[0]! (valueA (i % g.axis))
  let p := p.appendTag tagKeys[1]! (valueB (i / g.axis % g.axis))
  p.appendField fieldKeys[0]! (.float x)

/-- row number `number`, added to a point; where its time overflows, the call is cut off before its
draw -/
def rowAt (g : Grid) (number : UInt64) (p : Point) : OptionT Draw (UInt64 × Point × Grid) :=
  match g.time? (number - 1) with
  | some t => do
    let u ← unit
    return (number, g.fill (number - 1) t (u * 100.0) p, g)
  | none => failure

/-- the number of the next row, and the row added to a point; past the last row the point stays -/
def next (g : Grid) (p : Point) : OptionT Draw (UInt64 × Point × Grid) :=
  match Word.add? g.made 1 with
  | some number =>
    if g.total < number then return (number, p, { g with made := number })
    else { g with made := number }.rowAt number p
  | none => failure

/-- the number of the last of some next rows, without looking at them; without any it is `last` -/
def skipAfter (last : UInt64) (g : Grid) : Nat → OptionT Draw (UInt64 × Grid)
  | 0 => return (last, g)
  | n + 1 => do
    let (number, _, g) ← g.next {}
    skipAfter number g n

/-- the number of the last of the next `n` rows; rows count from one, so no rows answer zero -/
def skip (g : Grid) (n : Nat) : OptionT Draw (UInt64 × Grid) := g.skipAfter 0 n

/-- the number of rows made so far -/
def seenPoints (g : Grid) : UInt64 := min g.made g.total

/-- the number of field values in the rows so far: each row has one -/
def seenValues (g : Grid) : UInt64 := g.seenPoints

/-- whether all rows have been made -/
def finished (g : Grid) : Bool := g.total ≤ g.made

end Grid

end Telemetry
