import Telemetry.Fleet.Basic
import Telemetry.Grid
import Telemetry.Output.Writer

/-!
# The rows of fleets and grids

* `Fleet.filler`, `Grid.filler`  the rows one by one, together with the stream that they draw from;
                                 a call that overflows cuts the rows off;
* `Fleet.noteWritten`            after each batch a fleet learns how many rows have been written.
-/

namespace Telemetry

open Telemetry.Random

/-- the next row of a fleet, as long as there is one -/
def Fleet.filler : Filler (Fleet × Stream) := fun p (f, s) =>
  match (f.next? p).run.run s with
  | (some (number, p, f), s) => some (number ≤ f.total, p, f, s)
  | (none, _) => none

/-- tells a fleet what has been written -/
def Fleet.noteWritten (stats : WriteStats) : Fleet × Stream → Fleet × Stream
  | (f, s) => (f.setWritten stats.points, s)

/-- the next row of a grid, as long as there is one -/
def Grid.filler : Filler (Grid × Stream) := fun p (g, s) =>
  if g.finished then some (false, p, g, s)
  else
    match (g.next p).run.run s with
    | (some (_, p, g), s) => some (true, p, g, s)
    | (none, _) => none

end Telemetry
