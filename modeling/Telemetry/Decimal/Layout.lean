import Telemetry.Decimal.Natural
import Telemetry.Decimal.Shortest

/-!
# Layouts of decimal floats

A layout says how the shortest digits of a float become text: which sizes are written out in full,
which get an exponent, and what the special values are called.

* `Layout`           the decisions of one format;
* `Layout.finite`    the text of digits and a decimal point position;
* `Layout.text`      the text of a float.
-/

namespace Telemetry.Decimal

/-- the decisions of one number format -/
structure Layout where
  /-- whether a number `d.ddd · 10^k` is written without an exponent -/
  positional : Int → Bool
  /-- what follows the digits of a whole number that is written without an exponent -/
  wholeEnd : List Char
  /-- which of two equally near decimals is taken -/
  tie : Tie
  /-- the text of a value that is not a number -/
  nan : List Char
  /-- the text of positive infinity -/
  infinity : List Char
  /-- the text of negative infinity -/
  negativeInfinity : List Char

/-- the digits `ds` of the number `d.ddd · 10^k` -/
def Layout.positionalText (l : Layout) (ds : List Char) (k : Int) : List Char :=
  if k < 0 then
    '0' :: '.' :: (List.replicate (-k - 1).toNat '0' ++ ds)
  else
    let whole := k.toNat + 1
    if ds.length ≤ whole then ds ++ List.replicate (whole - ds.length) '0' ++ l.wholeEnd
    else ds.take whole ++ '.' :: ds.drop whole

/-- the number `d.ddd · 10^k` with its exponent, which always has a sign -/
def exponentText (ds : List Char) (k : Int) : List Char :=
  let mantissa :=
    match ds with
    | [] => []
    | [d] => [d]
    | d :: rest => d :: '.' :: rest
  mantissa ++ 'e' :: (if k < 0 then '-' else '+') :: digits k.natAbs

/-- a minus sign in front of negative numbers -/
def withSign (negative : Bool) (cs : List Char) : List Char := if negative then '-' :: cs else cs

/-- the text of a shape -/
def Layout.shapeText (l : Layout) : Shape → List Char
  | .nan => l.nan
  | .infinite negative => if negative then l.negativeInfinity else l.infinity
  | .zero negative => withSign negative (l.positionalText ['0'] 0)
  | .finite negative size =>
    let d := size.shortest l.tie
    let ds := digits d.coefficient
    let k := d.exponent + (ds.length : Int) - 1
    withSign negative (if l.positional k then l.positionalText ds k else exponentText ds k)

def Layout.text (l : Layout) (x : Float) : List Char := l.shapeText (Shape.ofBits x.toBits)

end Telemetry.Decimal
