/-!
# Draws

The stream that feeds the fields of every row: a 64-bit xorshift word that is multiplied on its
way out.

* `Stream.ofSeed s`   the stream that starts at `s`; the word zero never moves, so it is replaced;
* `step`, `scramble`  the move of the word, and the draw made from the moved word;
* `Draw α`            a computation that takes draws from the stream;
* `draw64`, `draw32`  a whole draw, and its high half;
* `below n`           an index under `n`, by multiplication instead of division;
* `unit`              a float in `[0, 1)` with 53 random bits.
-/

namespace Telemetry.Random

/-- the word behind the draws -/
structure Stream where
  word : UInt64
deriving DecidableEq, Repr

/-- the word that stands in for a zero seed -/
def zeroSeed : UInt64 := 0x9E3779B97F4A7C15

def Stream.ofSeed (seed : UInt64) : Stream := ⟨if seed = 0 then zeroSeed else seed⟩

def step (w : UInt64) : UInt64 :=
  let a := w ^^^ (w >>> 12)
  let b := a ^^^ (a <<< 25)
  b ^^^ (b >>> 27)

def scramble (w : UInt64) : UInt64 := w * 0x2545F4914F6CDD1D

abbrev Draw := StateM Stream

def draw64 : Draw UInt64 := fun s =>
  let w := step s.word
  (scramble w, ⟨w⟩)

/-- the next 32 random bits: the high half of a draw -/
def draw32 : Draw UInt32 := do
  return ((← draw64) >>> 32).toUInt32

/-- the share of `[0, n)` that 32 random bits fall into -/
def reduce (d n : UInt32) : UInt32 := ((d.toUInt64 * n.toUInt64) >>> 32).toUInt32

/-- an index under `n`, and zero for `n = 0` -/
def below (n : UInt32) : Draw UInt32 := do
  return reduce (← draw32) n

/-- the upper 53 bits of a draw as a float in `[0, 1)` -/
def fraction (w : UInt64) : Float := (w >>> 11).toFloat * (1.0 / 9007199254740992.0)

/-- a float in `[0, 1)` -/
def unit : Draw Float := do
  return fraction (← draw64)

/-! ## equations -/

theorem draw64_run (s : Stream) : draw64.run s = (scramble (step s.word), ⟨step s.word⟩) := rfl

theorem draw32_run (s : Stream) :
    draw32.run s = ((scramble (step s.word) >>> 32).toUInt32, ⟨step s.word⟩) := rfl

theorem below_run (n : UInt32) (s : Stream) :
    (below n).run s
      = (reduce (scramble (step s.word) >>> 32).toUInt32 n, ⟨step s.word⟩) := rfl

theorem unit_run (s : Stream) :
    unit.run s = (fraction (scramble (step s.word)), ⟨step s.word⟩) := rfl

end Telemetry.Random
