import Telemetry.Random.Draw

/-!
# Attribute choices

Attributes (an operating system, a vendor, the size of a disk) are chosen once, when an entity is
built, from a stream of their own: a 64-bit counter with a fixed stride, each value mixed on its way
out.  Every choice takes exactly one value of the stream.

* `Choice α`            a computation that takes choices;
* `choice64`            a whole value of the stream;
* `choose x xs`         one of the listed values;
* `within lo hi`        an integer from `lo` to `hi`, both included;
* `floatWithin lo hi`   a float of `[lo, hi)`.
-/

namespace Telemetry.Random

/-- the counter behind the attribute choices -/
structure Attributes where
  counter : UInt64
deriving DecidableEq, Repr

/-- the stride of the counter -/
def stride : UInt64 := 0x9E3779B97F4A7C15

/-- the value that is made from a counter -/
def mix (c : UInt64) : UInt64 :=
  let a := (c ^^^ (c >>> 30)) * 0xBF58476D1CE4E5B9
  let b := (a ^^^ (a >>> 27)) * 0x94D049BB133111EB
  b ^^^ (b >>> 31)

abbrev Choice := StateM Attributes

def choice64 : Choice UInt64 := fun s =>
  let c := s.counter + stride
  (mix c, ⟨c⟩)

/-- one of the values `x`, `xs` -/
def choose {α : Type} (x : α) (xs : List α) : Choice α := do
  let w ← choice64
  return ((x :: xs)[w.toNat % (xs.length + 1)]?).getD x

/-- an integer from `lo` to `hi`, both included -/
def within (lo hi : Nat) : Choice Nat := do
  let w ← choice64
  return lo + w.toNat % (hi - lo + 1)

/-- a float of `[lo, hi)` -/
def floatWithin (lo hi : Float) : Choice Float := do
  let w ← choice64
  return lo + (hi - lo) * fraction w

/-! ## equations -/

theorem choice64_run (s : Attributes) :
    choice64.run s = (mix (s.counter + stride), ⟨s.counter + stride⟩) := rfl

theorem choose_run {α : Type} (x : α) (xs : List α) (s : Attributes) :
    (choose x xs).run s
      = (((x :: xs)[(mix (s.counter + stride)).toNat % (xs.length + 1)]?).getD x,
          ⟨s.counter + stride⟩) := rfl

theorem within_run (lo hi : Nat) (s : Attributes) :
    (within lo hi).run s
      = (lo + (mix (s.counter + stride)).toNat % (hi - lo + 1), ⟨s.counter + stride⟩) := rfl

theorem floatWithin_run (lo hi : Float) (s : Attributes) :
    (floatWithin lo hi).run s
      = (lo + (hi - lo) * fraction (mix (s.counter + stride)),
          ⟨s.counter + stride⟩) := rfl

end Telemetry.Random
