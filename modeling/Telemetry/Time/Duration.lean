import Telemetry.Decimal.Natural

/-!
# Durations

A length of time in seconds and nanoseconds, never negative.

* `Duration.normal?`   seconds and any number of nanoseconds, carried into the seconds;
* `Duration.toNanos`   the whole length in nanoseconds;
* `Duration.toSeconds` the length in seconds as a float;
* `Duration.text`      the length in the largest unit that fits, as in `1.5s` and `20ms`.
-/

namespace Telemetry

/-- a length of time -/
structure Duration where
  seconds : UInt64
  /-- the part below a second, in nanoseconds -/
  nanos : UInt32
  nanos_lt : nanos.toNat < 1000000000 := by decide
deriving DecidableEq, Repr

namespace Duration

/-- whole seconds -/
def ofSeconds (s : UInt64) : Duration := ⟨s, 0, by decide⟩

/-- seconds and any number of nanoseconds; whole seconds in the latter are carried -/
def normal? (seconds : UInt64) (nanos : UInt32) : Option Duration :=
  if seconds.toNat + nanos.toNat / 1000000000 < UInt64.size then
    some ⟨seconds + (nanos / 1000000000).toUInt64, nanos % 1000000000, by
      rw [UInt32.toNat_mod]; exact Nat.mod_lt _ (by decide)⟩
  else none

def toNanos (d : Duration) : Nat := d.seconds.toNat * 1000000000 + d.nanos.toNat

/-- no length at all -/
def isZero (d : Duration) : Bool := d.seconds == 0 && d.nanos == 0

def toSeconds (d : Duration) : Float := d.seconds.toFloat + d.nanos.toFloat / 1000000000.0

theorem isZero_iff {d : Duration} : d.isZero = true ↔ d.toNanos = 0 := by
  unfold isZero toNanos
  rw [Bool.and_eq_true, beq_iff_eq, beq_iff_eq, ← UInt64.toNat_inj, ← UInt32.toNat_inj]
  show d.seconds.toNat = 0 ∧ d.nanos.toNat = 0 ↔ _
  omega

/-- carrying keeps the length -/
theorem toNanos_normal? {seconds : UInt64} {nanos : UInt32} {d : Duration}
    (h : normal? seconds nanos = some d) :
    d.toNanos = seconds.toNat * 1000000000 + nanos.toNat := by
  unfold normal? at h
  split at h
  · rename_i hlt
    obtain rfl := Option.some.inj h
    have hn := nanos.toNat_lt
    simp only [toNanos, UInt64.toNat_add, UInt32.toNat_toUInt64, UInt32.toNat_div,
      UInt32.toNat_mod, UInt64.size] at hlt ⊢
    have h9 : (1000000000 : UInt32).toNat = 1000000000 := rfl
    rw [h9, Nat.mod_eq_of_lt (by omega)]
    omega
  · simp at h

/-- a whole number and a fraction of `width` places, without zeros at the end -/
def decimal (whole fraction width : Nat) : List Char :=
  let places := ((Decimal.padded width fraction).reverse.dropWhile (· == '0')).reverse
  Decimal.digits whole ++ (if fraction = 0 then [] else '.' :: places)

def text (d : Duration) : String :=
  let n := d.nanos.toNat
  String.ofList <|
    if d.seconds ≠ 0 then decimal d.seconds.toNat n 9 ++ ['s']
    else if 1000000 ≤ n then decimal (n / 1000000) (n % 1000000) 6 ++ ['m', 's']
    else if 1000 ≤ n then decimal (n / 1000) (n % 1000) 3 ++ ['µ', 's']
    else decimal n 0 0 ++ ['n', 's']

end Duration

end Telemetry
