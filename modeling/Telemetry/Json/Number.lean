import Telemetry.Decimal.Natural
import Telemetry.Json.Value
import Telemetry.Word

/-!
# The value of a JSON number

A number without fraction and exponent is an integer as long as it fits in 64 bits; every other
number is a float.

The float is computed from a significand of 64 bits and a power of ten.  Digits that the significand
cannot hold are dropped: those before the point still count as places, and so does minus zero as a
float.  One multiplication or division by the power of ten follows, so the last bit may differ from
the nearest float.

* `Numeral`        the parts of a number as it is spelled;
* `Number`         its value;
* `Numeral.value?` the value, unless it is too large for a float.
-/

namespace Telemetry.Json

/-- the parts of a number: sign, digits before and after the point, and the exponent -/
structure Numeral where
  negative : Bool
  whole : List Char
  fraction : List Char
  exponent : Option (Bool × List Char)

/-- the exponent after the letter, if there is one: whether it is negative, and its digits -/
def exponentOf : List Char → Option (Bool × List Char)
  | _ :: '-' :: ds => some (true, ds)
  | _ :: '+' :: ds => some (false, ds)
  | _ :: ds => some (false, ds)
  | [] => none

/-- the parts of a number that follows the grammar -/
def Numeral.ofChars (cs : List Char) : Numeral :=
  let negative := cs.head? == some '-'
  let cs := if negative then cs.tail else cs
  let rest := cs.dropWhile Char.isDigit
  let fraction := if rest.head? == some '.' then rest.tail.takeWhile Char.isDigit else []
  let rest := if rest.head? == some '.' then rest.tail.dropWhile Char.isDigit else rest
  ⟨negative, cs.takeWhile Char.isDigit, fraction, exponentOf rest⟩

/-- the value of a number -/
inductive Number where
  | unsigned (n : UInt64)
  /-- an integer below zero -/
  | negative (i : Int64)
  | float (x : Float)

/-- a significand, and the power of ten that belongs to it -/
structure Significand where
  digits : Nat
  power : Int

/-- the digits before the point: once one does not fit, it and all later ones are only counted -/
def Significand.takeWhole (s : Significand) : List Char → Significand
  | [] => s
  | d :: ds =>
    let n := 10 * s.digits + Decimal.digitValue d
    if n < UInt64.size then takeWhole { s with digits := n } ds
    else { s with power := s.power + (ds.length + 1 : Nat) }

/-- the digits after the point: once one does not fit, it and all later ones are dropped -/
def Significand.takeFraction (s : Significand) : List Char → Significand
  | [] => s
  | d :: ds =>
    let n := 10 * s.digits + Decimal.digitValue d
    if n < UInt64.size then takeFraction ⟨n, s.power - 1⟩ ds else s

/-- the float nearest to a power of ten -/
def powerOfTen (n : Nat) : Float := Float.ofScientific 1 false n

/-- the float `x · 10^e`, unless it is infinite; sizes below the smallest power go down in steps of
`10^308` -/
def scaled? (x : Float) (e : Int) : Option Float :=
  if 0 ≤ e then
    if e ≤ 308 then
      let y := x * powerOfTen e.toNat
      if y.isInf then none else some y
    else if x == 0 then some x
    else none
  else if -308 ≤ e then some (x / powerOfTen (-e).toNat)
  else if x == 0 then some x
  else scaled? (x / powerOfTen 308) (e + 308)
termination_by (-e).toNat
decreasing_by omega

/-- the largest exponent that is counted -/
def maxExponent : Nat := 2147483647

/-- an exponent after a significand's own power of ten, held between the bounds of 32 bits -/
def clampPower (i : Int) : Int := max (-2147483648) (min 2147483647 i)

/-- the float of a significand and an exponent -/
def Significand.float? (s : Significand) : Option (Bool × List Char) → Option Float
  | none => scaled? (Nat.toUInt64 s.digits).toFloat s.power
  | some (negative, ds) =>
    let n := Decimal.value ds
    if maxExponent < n then
      if s.digits ≠ 0 ∧ !negative then none else some 0
    else
      scaled? (Nat.toUInt64 s.digits).toFloat
        (clampPower (if negative then s.power - (n : Int) else s.power + (n : Int)))

/-- a float with the sign of the number -/
def Numeral.withSign (n : Numeral) (x : Float) : Float := if n.negative then -x else x

def Numeral.value? (n : Numeral) : Option Number :=
  let whole := Decimal.value n.whole
  let floatValue :=
    let s := ((⟨0, 0⟩ : Significand).takeWhole n.whole).takeFraction n.fraction
    (s.float? n.exponent).map fun x => .float (n.withSign x)
  if n.fraction.isEmpty ∧ n.exponent.isNone ∧ whole < UInt64.size then
    if !n.negative then some (.unsigned whole.toUInt64)
    else if 0 < whole ∧ whole ≤ Word.half then some (.negative (Int64.ofInt (-(whole : Int))))
    else some (.float (-(whole.toUInt64.toFloat)))
  else floatValue

/-- the value of a JSON number -/
def number? : Json → Option Number
  | .number literal => (Numeral.ofChars literal.toList).value?
  | _ => none

/-! ## as a certain type -/

/-- a number that is an unsigned integer of 64 bits -/
def unsigned? (j : Json) : Option UInt64 :=
  match j.number? with
  | some (.unsigned n) => some n
  | _ => none

/-- a number that is a signed integer of 64 bits -/
def signed? (j : Json) : Option Int64 :=
  match j.number? with
  | some (.unsigned n) => if n.toNat < Word.half then some n.toInt64 else none
  | some (.negative i) => some i
  | _ => none

/-- any number as a float -/
def float? (j : Json) : Option Float :=
  match j.number? with
  | some (.unsigned n) => some n.toFloat
  | some (.negative i) => some i.toFloat
  | some (.float x) => some x
  | none => none

end Telemetry.Json
