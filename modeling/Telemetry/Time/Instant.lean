import Telemetry.Decimal.Natural
import Telemetry.Text.Blank
import Telemetry.Time.Calendar
import Telemetry.Word

/-!
# Instants and their text

An instant is a second of universal time with a part in nanoseconds.  A part of a second or more
stands for a leap second: the instant lies within second 60 of its minute.

* `Instant.ofNanos`     the instant of a timestamp;
* `Instant.nanos?`      the timestamp of an instant, if it fits in 64 signed bits;
* `Instant.rfc3339`     the text `2016-01-01T00:00:00Z`, with a fraction of 3, 6 or 9 places where
                        one is needed;
* `Instant.plain`       the same as `2016-01-01 00:00:00 UTC`;
* `Instant.read?`       reads the relaxed form of RFC 3339: blanks between the parts, numbers with
                        fewer digits, and an offset, `Z` or `UTC` at the end.
-/

namespace Telemetry

/-- a point in time -/
structure Instant where
  /-- seconds since 1970 -/
  seconds : Int
  /-- below two thousand million; from one thousand million on, within a leap second -/
  nanos : Nat
deriving DecidableEq, Repr

namespace Instant

def ofNanos (t : Int64) : Instant :=
  ⟨t.toInt / 1000000000, (t.toInt % 1000000000).toNat⟩

/-- the timestamp of an instant, if it fits in 64 signed bits -/
def nanos? (t : Instant) : Option Int64 :=
  Word.signed? (t.seconds * 1000000000 + (t.nanos : Int))

/-! ## writing -/

/-- a year of four digits, or of more with a sign -/
def yearText (year : Int) : List Char :=
  if 0 ≤ year ∧ year ≤ 9999 then Decimal.padded 4 year.toNat
  else (if year < 0 then '-' else '+') :: Decimal.padded 4 year.natAbs

/-- the day, as in `2016-01-01` -/
def dateText (t : Instant) : List Char :=
  let d := Date.ofDays (t.seconds / 86400)
  yearText d.year ++ '-' :: (Decimal.padded 2 d.month ++ '-' :: Decimal.padded 2 d.day)

/-- the fraction of a second with 3, 6 or 9 places, or nothing -/
def fractionText (nanos : Nat) : List Char :=
  if nanos = 0 then []
  else if nanos % 1000000 = 0 then '.' :: Decimal.padded 3 (nanos / 1000000)
  else if nanos % 1000 = 0 then '.' :: Decimal.padded 6 (nanos / 1000)
  else '.' :: Decimal.padded 9 nanos

/-- the time of day, as in `00:00:00.500` -/
def clockText (t : Instant) : List Char :=
  let s := (t.seconds % 86400).toNat
  let second := s % 60 + t.nanos / 1000000000
  Decimal.padded 2 (s / 3600) ++ ':' :: (Decimal.padded 2 (s / 60 % 60) ++ ':' ::
    (Decimal.padded 2 second ++ fractionText (t.nanos % 1000000000)))

/-- the instant as in `2016-01-01T00:00:00Z` -/
def rfc3339 (t : Instant) : String := String.ofList (t.dateText ++ 'T' :: (t.clockText ++ ['Z']))

/-- the instant as in `2016-01-01 00:00:00 UTC` -/
def plain (t : Instant) : String :=
  String.ofList (t.dateText ++ ' ' :: (t.clockText ++ [' ', 'U', 'T', 'C']))

/-! ## reading -/

/-- a number of one to `most` digits after blanks, and what follows it -/
def readNumber? (most : Nat) (cs : List Char) : Option (Nat × List Char) :=
  let cs := Text.dropBlanks cs
  let ds := (cs.take most).takeWhile Char.isDigit
  if ds.isEmpty then none else some (Decimal.value ds, cs.drop ds.length)

/-- a number of two digits at most that lies between two bounds -/
def readWithin? (lo hi : Nat) (cs : List Char) : Option (Nat × List Char) := do
  let (n, rest) ← readNumber? 2 cs
  if lo ≤ n ∧ n ≤ hi then some (n, rest) else none

/-- a year of four digits at most, or of any number of digits after a sign -/
def readYear? (cs : List Char) : Option (Int × List Char) :=
  match Text.dropBlanks cs with
  | '-' :: rest => signed rest (-1)
  | '+' :: rest => signed rest 1
  | cs => (readNumber? 4 cs).map fun (n, rest) => ((n : Int), rest)
where
  /-- the digits right after the sign -/
  signed (rest : List Char) (sign : Int) : Option (Int × List Char) :=
    match rest with
    | c :: _ =>
      if c.isDigit then (readNumber? rest.length rest).map fun (n, rest) => (sign * n, rest)
      else none
    | [] => none

/-- a separator after blanks -/
def readSeparator? (c : Char) (cs : List Char) : Option (List Char) :=
  match Text.dropBlanks cs with
  | d :: rest => if c = d then some rest else none
  | [] => none

/-- the years that a date may have -/
def yearBounds : Int × Int := (-262143, 262142)

/-- a date, and what follows it -/
def readDate? (cs : List Char) : Option (Date × List Char) := do
  let (year, cs) ← readYear? cs
  let cs ← readSeparator? '-' cs
  let (month, cs) ← readWithin? 1 12 cs
  let cs ← readSeparator? '-' cs
  let (day, cs) ← readWithin? 1 31 cs
  let date : Date := ⟨year, month, day⟩
  if yearBounds.1 ≤ year ∧ year ≤ yearBounds.2 ∧ date.isValid then some (date, cs) else none

/-- a fraction in nanoseconds: a point and at least one digit, of which the first nine count -/
def readFraction? : List Char → Option (Nat × List Char)
  | '.' :: rest =>
    let ds := rest.takeWhile Char.isDigit
    let kept := ds.take 9
    if ds.isEmpty then none
    else some (Decimal.value kept * Nat.pow 10 (9 - kept.length), rest.drop ds.length)
  | cs => some (0, cs)

/-- a time of day as seconds and nanoseconds, and what follows it; second 60 is the 59th and a
thousand million nanoseconds -/
def readClock? (cs : List Char) : Option (Nat × Nat × List Char) := do
  let (hour, cs) ← readWithin? 0 23 cs
  let cs ← readSeparator? ':' cs
  let (minute, cs) ← readWithin? 0 59 cs
  let cs ← readSeparator? ':' cs
  let (second, cs) ← readWithin? 0 60 cs
  let (nanos, cs) ← readFraction? cs
  let leap := if second = 60 then 1 else 0
  return ((hour * 60 + minute) * 60 + (second - leap), nanos + leap * 1000000000, cs)

/-- two digits -/
def readPair? : List Char → Option (Nat × List Char)
  | a :: b :: rest =>
    if a.isDigit && b.isDigit then some (Decimal.value [a, b], rest) else none
  | _ => none

/-- hours and minutes of an offset as seconds; colons and blanks may stand between them -/
def readOffsetSize? (cs : List Char) : Option (Int × List Char) := do
  let (hours, cs) ← readPair? cs
  let (minutes, cs) ← readPair? (cs.dropWhile fun c => c == ':' || Text.isBlank c)
  if minutes ≤ 59 then return ((hours : Int) * 3600 + (minutes : Int) * 60, cs) else none

/-- the offset from universal time in seconds, and what follows it -/
def readOffset? (cs : List Char) : Option (Int × List Char) :=
  match Text.dropBlanks cs with
  | 'Z' :: rest => some (0, rest)
  | 'z' :: rest => some (0, rest)
  | '+' :: rest => readOffsetSize? rest
  | '-' :: rest => negative rest
  | '\u2212' :: rest => negative rest
  | a :: b :: c :: rest =>
    if [a, b, c].map Char.toUpper = ['U', 'T', 'C'] then some (0, rest) else none
  | _ => none
where
  /-- an offset west of Greenwich -/
  negative (rest : List Char) : Option (Int × List Char) :=
    (readOffsetSize? rest).map fun (n, rest) => (-n, rest)

def read? (s : String) : Option Instant := do
  let (date, cs) ← readDate? s.toList
  let cs ← match cs with
    | 'T' :: rest => some rest
    | 't' :: rest => some rest
    | ' ' :: rest => some rest
    | _ => none
  let (clock, nanos, cs) ← readClock? cs
  let (offset, cs) ← readOffset? cs
  let seconds := date.toDays * 86400 + (clock : Int) - offset
  let year := (Date.ofDays (seconds / 86400)).year
  if (Text.dropBlanks cs).isEmpty ∧ -86400 < offset ∧ offset < 86400
      ∧ yearBounds.1 ≤ year ∧ year ≤ yearBounds.2 then
    some ⟨seconds, nanos⟩
  else none

end Instant

end Telemetry
