import Telemetry.Word

/-!
# Time windows

A window holds the timestamps from its start up to, and without, its stop.

* `Window.contains`  whether a timestamp lies in it;
* `Window.length?`   its length in nanoseconds, if that fits in 64 signed bits;
* `Window.isEmpty`   whether it holds no timestamp.
-/

namespace Telemetry

/-- the timestamps from `start`, included, to `stop`, excluded -/
structure Window where
  start : Int64
  stop : Int64
deriving DecidableEq, Repr

namespace Window

def contains (w : Window) (t : Int64) : Bool := w.start ≤ t && t < w.stop

/-- the length of the window, negative for a reversed one, if it fits in 64 signed bits -/
def length? (w : Window) : Option Int64 :=
  Word.signed? (w.stop.toInt - w.start.toInt)

def isEmpty (w : Window) : Bool := w.stop ≤ w.start

theorem not_isEmpty_iff {w : Window} : ¬ w.isEmpty = true ↔ w.start.toInt < w.stop.toInt := by
  rw [isEmpty, decide_eq_true_eq, Int64.le_iff_toInt_le, Int.not_le]

end Window

end Telemetry
