/-!
# Decimal text of whole numbers

* `digits n`        the decimal digits of `n`, most significant first;
* `padded w n`      the same with zeros in front, up to `w` characters;
* `signed i`        a whole number with a minus sign where it is negative;
* `value ds`        the number that digits stand for;
* `readNatural?`    reads one or more digits, with an optional plus sign in front.
-/

namespace Telemetry.Decimal

def digits (n : Nat) : List Char := Nat.toDigits 10 n

/-- the digits with zeros in front, up to `width` characters -/
def padded (width n : Nat) : List Char :=
  List.replicate (width - (digits n).length) '0' ++ digits n

def signed (i : Int) : List Char :=
  if i < 0 then '-' :: digits i.natAbs else digits i.natAbs

/-- the number that a digit stands for -/
def digitValue (c : Char) : Nat := c.toNat - '0'.toNat

def value (ds : List Char) : Nat := ds.foldl (fun n c => 10 * n + digitValue c) 0

/-- the number of one or more digits -/
def readDigits? (ds : List Char) : Option Nat :=
  if !ds.isEmpty && ds.all Char.isDigit then some (value ds) else none

def readNatural? : List Char → Option Nat
  | '+' :: ds => readDigits? ds
  | ds => readDigits? ds

/-- the number of digits that may follow a sign -/
def readInteger? : List Char → Option Int
  | '-' :: ds => (readDigits? ds).map fun n => -(n : Int)
  | cs => (readNatural? cs).map Int.ofNat

end Telemetry.Decimal
