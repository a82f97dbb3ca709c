/-!
# The shortest decimal of a binary float

A finite float other than zero is `m · 2^q`, and the reals that round to it form an interval around
it.  Its shortest decimal is the decimal of fewest digits in that interval, and of several such
decimals the nearest one.

* `Magnitude`      the numbers `m` and `q` of a float without its sign;
* `Decimal`        a number `c · 10^e`;
* `Magnitude.hit?` the nearest decimal with a given number of digits, if it lies in the interval;
* `shortest`       the hit with the fewest digits.  Seventeen digits always suffice.

All comparisons are made on natural numbers, so the choice is exact.
-/

namespace Telemetry.Decimal

/-- a positive float `mantissa · 2^exponent`; at a power of two the gap below is half as wide -/
structure Magnitude where
  mantissa : Nat
  exponent : Int
  halfGapBelow : Bool
deriving DecidableEq, Repr

/-- a float, taken apart -/
inductive Shape where
  | nan
  | infinite (negative : Bool)
  | zero (negative : Bool)
  | finite (negative : Bool) (size : Magnitude)
deriving DecidableEq, Repr

/-- the shape that 64 bits encode: a sign, eleven bits of exponent and 52 bits of mantissa -/
def Shape.ofBits (bits : UInt64) : Shape :=
  let negative := bits >>> 63 != 0
  let exponent := ((bits >>> 52) &&& 0x7FF).toNat
  let mantissa := (bits &&& 0xFFFFFFFFFFFFF).toNat
  if exponent = 2047 then
    if mantissa = 0 then .infinite negative else .nan
  else if exponent = 0 then
    if mantissa = 0 then .zero negative else .finite negative ⟨mantissa, -1074, false⟩
  else
    .finite negative
      ⟨4503599627370496 + mantissa, (exponent : Int) - 1075, mantissa = 0 && 1 < exponent⟩

/-- which of two equally near decimals is taken -/
inductive Tie where
  /-- the larger one -/
  | up
  /-- the one with an even last digit -/
  | even
deriving DecidableEq, Repr

/-- the number `coefficient · 10^exponent` -/
structure Scaled where
  coefficient : Nat
  exponent : Int
deriving DecidableEq, Repr

/-- the factors `(a, b)` with `a / b = 2^q / 10^e` -/
def ratio (q e : Int) : Nat × Nat :=
  (Nat.pow 2 q.toNat * Nat.pow 10 (-e).toNat, Nat.pow 2 (-q).toNat * Nat.pow 10 e.toNat)

/-- the largest `k` with `10^k ≤ m · 2^q`: the first guess comes from the binary logarithm, and
`78913 / 2^18` is `log 2` to the base ten -/
def Magnitude.decade (x : Magnitude) : Int :=
  let guess := ((x.exponent + (Nat.log2 x.mantissa : Int)) * 78913) / 262144
  let (a, b) := ratio x.exponent (guess + 1)
  if b ≤ x.mantissa * a then guess + 1 else guess

/-- the nearer of the decimals `c · 10^e` and `(c + 1) · 10^e`, as far as they round to the float -/
def Magnitude.hit? (x : Magnitude) (tie : Tie) (e : Int) : Option Scaled :=
  let (a, b) := ratio (x.exponent - 2) e
  let value := 4 * x.mantissa * a
  let low := (4 * x.mantissa - (if x.halfGapBelow then 1 else 2)) * a
  let high := (4 * x.mantissa + 2) * a
  let c := value / b
  let closed := x.mantissa % 2 = 0
  let lowHit := if closed then low ≤ c * b else low < c * b
  let highHit := if closed then (c + 1) * b ≤ high else (c + 1) * b < high
  let below := value - c * b
  let above := (c + 1) * b - value
  let takeHigh :=
    below > above || (below == above && (match tie with | .up => true | .even => c % 2 == 1))
  if lowHit ∧ highHit then some ⟨if takeHigh then c + 1 else c, e⟩
  else if lowHit then some ⟨c, e⟩
  else if highHit then some ⟨c + 1, e⟩
  else none

/-- the decimal without zeros at the end of its coefficient -/
def Scaled.trim : Nat → Scaled → Scaled
  | 0, d => d
  | n + 1, d =>
    if d.coefficient % 10 = 0 ∧ d.coefficient ≠ 0 then
      trim n ⟨d.coefficient / 10, d.exponent + 1⟩
    else d

def Magnitude.shortest (x : Magnitude) (tie : Tie) : Scaled :=
  let k := x.decade
  let found := (List.range 17).findSome? fun n : Nat => x.hit? tie (k - (n : Int))
  (found.getD ⟨x.mantissa, 0⟩).trim 18

end Telemetry.Decimal
