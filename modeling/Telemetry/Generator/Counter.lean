import Telemetry.Point.Basic

/-!
# Counters

A total that only grows.

* `Counter`       whole numbers of 64 bits, which start again at zero after the largest one;
* `FloatCounter`  floats; an amount below zero, or one that is not a number, adds nothing;
* `addAll`        several counters, each with an amount of its own;
* `Point.appendTotals`  a point with the totals of several counters added, each under its key.
-/

namespace Telemetry

/-- a total of whole numbers -/
structure Counter where
  value : UInt64 := 0
deriving DecidableEq, Repr

/-- the counter after an addition -/
def Counter.add (c : Counter) (amount : UInt64) : Counter := ⟨c.value + amount⟩

/-- a total of floats -/
structure FloatCounter where
  value : Float := 0

namespace FloatCounter

/-- a float, or zero where it is not above zero -/
def positive (x : Float) : Float := if 0 < x then x else 0

/-- the counter that starts at a value, or at zero where that is not above zero -/
def start (initial : Float) : FloatCounter := ⟨positive initial⟩

/-- the counter after an addition -/
def add (c : FloatCounter) (amount : Float) : FloatCounter := ⟨c.value + positive amount⟩

end FloatCounter

/-- several counters, each after its own addition -/
def addAll {n : Nat} (counters : Vector Counter n) (amounts : Vector UInt64 n) : Vector Counter n :=
  counters.zipWith Counter.add amounts

/-- several counters that all start at zero -/
def zeroCounters (n : Nat) : Vector Counter n := Vector.replicate n {}

/-- a point with the totals of several counters added in order, each under its key -/
def Point.appendTotals {n : Nat} (p : Point) (keys : List String) (counters : Vector Counter n) :
    Point :=
  (keys.zip counters.toList).foldl (fun p (key, c) => p.appendField key (.unsigned c.value)) p

end Telemetry
