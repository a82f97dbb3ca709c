import Telemetry.Random.Draw

/-!
# Random walks

A value that moves by a random amount per row and never leaves its bounds.

* `fetchUpdate`, `fetched`          a value that is replaced, and the value that was found there;
* `IntWalk`, `FloatWalk`            a value, its bounds and the largest move;
* `IntWalk.start?`                  a walk from a value that is first brought within the bounds;
                                    there is none if the bounds are reversed;
* `IntWalk.offset`, `IntWalk.move`  the move that a draw stands for, and the value after a move;
* `IntWalk.advance`                 one move.
-/

namespace Telemetry

open Telemetry.Random

/-! ## updates -/

/-- a value after a function has replaced it, with the value that was found; where the function makes
nothing of it, it stays and is answered as an error -/
def fetchUpdate {α : Type} (f : α → Option α) (v : α) : Except α α × α :=
  match f v with
  | some v' => (.ok v, v')
  | none => (.error v, v)

/-- the value that was found, whether or not it was replaced -/
def fetched {α : Type} : Except α α → α
  | .ok v => v
  | .error v => v

/-! ## whole numbers -/

/-- a walk over whole numbers -/
structure IntWalk where
  value : UInt64
  lo : UInt64
  hi : UInt64
  step : UInt64
  lo_le_hi : lo ≤ hi
deriving DecidableEq, Repr

namespace IntWalk

/-- a whole number brought within bounds -/
def clamp (lo hi : UInt64) (v : Int) : UInt64 :=
  if v < (lo.toNat : Int) then lo
  else if (hi.toNat : Int) < v then hi
  else v.toNat.toUInt64

/-- the walk from a value that is brought within the bounds -/
def start (initial lo hi step : UInt64) (h : lo ≤ hi) : IntWalk :=
  ⟨clamp lo hi (initial.toNat : Int), lo, hi, step, h⟩

/-- the walk from a value, if the bounds are not reversed -/
def start? (initial lo hi step : UInt64) : Option IntWalk :=
  if h : lo ≤ hi then some (start initial lo hi step h) else none

/-- the largest number of 64 bits -/
def top : Nat := UInt64.size - 1

/-- the number of moves from `-step` to `step`, as far as 64 bits can count them -/
def span (step : UInt64) : Nat := min (min (step.toNat * 2) top + 1) top

def offset (step word : UInt64) : Int := (word.toNat % span step : Nat) - (step.toNat : Int)

/-- a value after a move, stopped at the bounds -/
def apply (w : IntWalk) (d : Int) (v : UInt64) : UInt64 := clamp w.lo w.hi ((v.toNat : Int) + d)

/-- the walk after a move -/
def move (w : IntWalk) (d : Int) : IntWalk := { w with value := w.apply d w.value }

/-- one random move, and the value after it: the move is made once in place, and a second time from
the value that was found there -/
def advance (w : IntWalk) : Draw (UInt64 × IntWalk) := do
  let d := offset w.step (← draw64)
  let (previous, value) := fetchUpdate (fun v => some (w.apply d v)) w.value
  return (w.apply d (fetched previous), { w with value := value })

end IntWalk

/-! ## floats -/

/-- a float brought within bounds; what is not a number stays -/
def clampFloat (lo hi x : Float) : Float :=
  if x < lo then lo else if hi < x then hi else x

/-- a walk over floats -/
structure FloatWalk where
  value : Float
  lo : Float
  hi : Float
  step : Float
  lo_le_hi : lo ≤ hi

namespace FloatWalk

/-- the walk from a value that is brought within the bounds -/
def start (initial lo hi step : Float) (h : lo ≤ hi := by decide) : FloatWalk :=
  ⟨clampFloat lo hi initial, lo, hi, step, h⟩

/-- the walk from a value, if the bounds are in order -/
def start? (initial lo hi step : Float) : Option FloatWalk :=
  if h : lo ≤ hi then some (start initial lo hi step h) else none

/-- the walk at another value, brought within the bounds -/
def set (w : FloatWalk) (x : Float) : FloatWalk :=
  { w with value := clampFloat w.lo w.hi x }

/-- one random move from `[-step, step)`, and the value after it, made twice like that of whole
numbers -/
def advance (w : FloatWalk) : Draw (Float × FloatWalk) := do
  let d := ((← unit) * 2.0 - 1.0) * w.step
  let apply := fun v : Float => clampFloat w.lo w.hi (v + d)
  let (previous, value) := fetchUpdate (fun v => some (apply v)) w.value
  return (apply (fetched previous), { w with value := value })

end FloatWalk

end Telemetry
