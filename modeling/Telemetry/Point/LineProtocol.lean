import Telemetry.Decimal.Layout
import Telemetry.Point.Basic

/-!
# Line protocol

The text form of a row: a head of measurement and tags, the fields, and the time, with a space
between the three.

`cpu,host=a,os=b\ c usage=64.5,cores=8i 1609459200000000000`

* `escape`           a backslash in front of every character that would end a name;
* `numbers`          how floats are written: the shortest digits, never with an exponent;
* `FieldValue.token` the text of a value, with `i` after signed and `u` after unsigned integers;
* `Point.line`       the whole row, without the line feed;
* `Point.lineText`   the whole row with its line feed.
-/

namespace Telemetry

namespace LineProtocol

/-- a backslash in front of every character of `special` -/
def escape (special : List Char) (cs : List Char) : List Char :=
  cs.flatMap fun c => if special.contains c then ['\\', c] else [c]

/-- what is escaped in a measurement name -/
def nameEnds : List Char := [',', ' ']

/-- what is escaped in keys and tag values -/
def keyEnds : List Char := [',', ' ', '=']

def numbers : Decimal.Layout where
  positional := fun _ => true
  wholeEnd := []
  tie := .up
  nan := ['N', 'a', 'N']
  infinity := ['i', 'n', 'f']
  negativeInfinity := ['-', 'i', 'n', 'f']

/-- the text of a float -/
def floatText (x : Float) : List Char := numbers.text x

end LineProtocol

open LineProtocol

def FieldValue.token : FieldValue → List Char
  | .float x => floatText x
  | .integer i => Decimal.signed i.toInt ++ ['i']
  | .unsigned u => Decimal.digits u.toNat ++ ['u']
  | .boolean true => ['t', 'r', 'u', 'e']
  | .boolean false => ['f', 'a', 'l', 's', 'e']

/-- a tag as `key=value` -/
def Tag.pair (t : Tag) : List Char :=
  escape keyEnds t.key.toList ++ '=' :: escape keyEnds t.value.toList

/-- a field as `key=value` -/
def Field.pair (f : Field) : List Char := escape keyEnds f.key.toList ++ '=' :: f.value.token

namespace Point

/-- the measurement and the tags -/
def head (p : Point) : List Char :=
  escape nameEnds p.measurement.toList ++ p.tags.flatMap fun t => ',' :: t.pair

/-- the fields, with a comma between them -/
def fieldSection (p : Point) : List Char :=
  match p.fields with
  | [] => []
  | f :: rest => ' ' :: (f.pair ++ rest.flatMap fun g => ',' :: g.pair)

/-- the characters of the row, without a line feed -/
def lineChars (p : Point) : List Char :=
  p.head ++ p.fieldSection ++ ' ' :: Decimal.signed p.timestamp.toInt

def line (p : Point) : String := String.ofList p.lineChars

def lineText (p : Point) : String := String.ofList (p.lineChars ++ ['\n'])

end Point

end Telemetry
