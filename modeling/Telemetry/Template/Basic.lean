import Telemetry.Decimal.Natural
import Telemetry.Error
import Telemetry.Text.Cut

/-!
# Query templates

A template is text with placeholders in double braces.  A placeholder names a tag, possibly with a
count, or one of six bounds of time.

* `Bound`, `Placeholder`, `Segment`  the parts of a template;
* `Template.parse`                   takes a text apart, given the tag keys that it may name.
-/

namespace Telemetry

namespace Template

/-- a time that a template may name -/
inductive Bound where
  | start
  | stop
  | startNanos
  | stopNanos
  | now
  | nowNanos
deriving DecidableEq, Repr

/-- all bounds -/
def Bound.all : List Bound := [.start, .stop, .startNanos, .stopNanos, .now, .nowNanos]

/-- the name of a bound, which no tag can take -/
def Bound.name : Bound → String
  | .start => "start"
  | .stop => "end"
  | .startNanos => "start_ns"
  | .stopNanos => "end_ns"
  | .now => "now"
  | .nowNanos => "now_ns"

/-- the bound of a name -/
def Bound.ofName? (s : String) : Option Bound := all.find? (·.name == s)

/-- what a placeholder stands for -/
inductive Placeholder where
  /-- the tag with this place among the tag keys -/
  | tag (key : Nat)
  | bound (b : Bound)
deriving DecidableEq, Repr

/-- a part of a template -/
inductive Segment where
  | literal (text : String)
  /-- a placeholder, and how many values it stands for -/
  | placeholder (p : Placeholder) (times : Nat)
deriving DecidableEq, Repr

end Template

open Template

/-- a text and its parts -/
structure Template where
  source : String
  segments : List Segment
deriving DecidableEq, Repr

namespace Template

/-- the placeholders in order, with their counts -/
def placeholders (t : Template) : List (Placeholder × Nat) :=
  t.segments.filterMap fun
    | .literal _ => none
    | .placeholder p times => some (p, times)

/-- a character of a name -/
def isNameChar (c : Char) : Bool := c.isAlphanum || c == '_'

/-- a name has at least one character, and all of them are letters, digits or underscores -/
def isName (cs : List Char) : Bool := !cs.isEmpty && cs.all isNameChar

/-- the largest count -/
def maxTimes : Nat := 4294967295

/-- a count: digits, possibly after a plus sign, for a number from 1 to `maxTimes` -/
def count? (cs : List Char) : Option Nat :=
  (Decimal.readNatural? cs).filter fun n => 0 < n && n ≤ maxTimes

/-- the name and the count of a placeholder -/
def nameAndCount (body : List Char) : Except Malformation (List Char × Option Nat) :=
  match Text.cutAt? ':' body with
  | none => .ok (body, none)
  | some (name, count) =>
    match count? count with
    | some n => .ok (name, some n)
    | none => .error (.badCount (String.ofList body))

/-- what a placeholder's text stands for; `times` is the count of a tag that is written without -/
def readPlaceholder (source : String) (keys : List String) (times : Nat) (body : List Char) :
    Except Fault Segment := do
  let malformed := fun reason => Fault.malformedPlaceholder source reason
  let (nameChars, count) ← (nameAndCount body).mapError malformed
  let name := String.ofList nameChars
  if !isName nameChars then .error (malformed (.badName name))
  else
    match Bound.ofName? name with
    | some b =>
      if count.isSome then .error (malformed (.repeatedBound name))
      else .ok (.placeholder (.bound b) 1)
    | none =>
      match keys.idxOf? name with
      | some key => .ok (.placeholder (.tag key) (count.getD times))
      | none => .error (.unknownPlaceholder source name)

/-- a literal, unless it is empty -/
def literal (cs : List Char) : List Segment :=
  if cs.isEmpty then [] else [.literal (String.ofList cs)]

/-- the parts of a text, up to the first bad placeholder -/
def readSegments (source : String) (keys : List String) (times : Nat) (cs : List Char) :
    Except Fault (List Segment) :=
  match _hopen : Text.cutPair? '\x7b' cs with
  | none => .ok (literal cs)
  | some (before, inner) =>
    match _hclose : Text.cutPair? '\x7d' inner with
    | none => .error (.malformedPlaceholder source .unterminated)
    | some (body, after) =>
      match readPlaceholder source keys times body with
      | .error e => .error e
      | .ok segment =>
        match readSegments source keys times after with
        | .error e => .error e
        | .ok segments => .ok (literal before ++ segment :: segments)
termination_by cs.length
decreasing_by
  exact Nat.lt_trans (Text.cutPair?_length _hclose) (Text.cutPair?_length _hopen)

/-- takes a text apart; a tag without a count stands for `times` values -/
def parse (source : String) (keys : List String) (times : Nat) : Except Fault Template :=
  if times = 0 then .error (.malformedPlaceholder source .zeroRepeat)
  else (readSegments source keys times source.toList).map (Template.mk source)

end Template

end Telemetry
