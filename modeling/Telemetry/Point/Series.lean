import Telemetry.Point.Basic

/-!
# Series identifiers

Rows with the same measurement and the same tags in the same order belong to one series.  The
identifier of a series is a hash of these texts.

* `Hash.mix h w`     one word enters the hash: a rotation, an exclusive or and a multiplication;
* `Hash.text h s`    the UTF-8 bytes of a text in words of eight, four and one bytes, then a mark;
* `Point.seriesId`   the hash of a row's measurement and tags.
-/

namespace Telemetry

namespace Hash

/-- the odd factor of the hash -/
def factor : UInt64 := 0x517cc1b727220a95

/-- the word turned left by five bits -/
def rotate (h : UInt64) : UInt64 := (h <<< 5) ||| (h >>> 59)

def mix (h w : UInt64) : UInt64 := (rotate h ^^^ w) * factor

/-- the word of bytes, least significant byte first -/
def word (bytes : List UInt8) : UInt64 := bytes.foldr (fun b w => (w <<< 8) ||| b.toUInt64) 0

/-- the hash after the bytes that are left when no eight are: four at once if there are four, then
one at a time -/
def tail (h : UInt64) (bytes : List UInt8) : UInt64 :=
  if 4 ≤ bytes.length then
    (bytes.drop 4).foldl (fun h b => mix h b.toUInt64) (mix h (word (bytes.take 4)))
  else bytes.foldl (fun h b => mix h b.toUInt64) h

/-- the hash after a run of bytes -/
def run (h : UInt64) (bytes : List UInt8) : UInt64 :=
  if 8 ≤ bytes.length then run (mix h (word (bytes.take 8))) (bytes.drop 8) else tail h bytes
termination_by bytes.length
decreasing_by simp only [List.length_drop]; omega

/-- the hash after a text: its bytes and a mark that no text contains -/
def text (h : UInt64) (s : String) : UInt64 := mix (run h s.toUTF8.toList) 0xff

end Hash

def seriesId (measurement : String) (tags : List Tag) : UInt64 :=
  tags.foldl (fun h t => Hash.text (Hash.text h t.key) t.value) (Hash.text 0 measurement)

def Point.seriesId (p : Point) : UInt64 := Telemetry.seriesId p.measurement p.tags

end Telemetry
