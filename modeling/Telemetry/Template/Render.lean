import Telemetry.Output.Sink
import Telemetry.Random.Draw
import Telemetry.Template.Basic

/-!
# Instances of templates

An instance replaces the placeholders of a template by values of a source.  One entity is drawn
first, and every tag that stands for one value takes it from that entity; a tag that stands for
several values draws an entity for each.

* `Source`             the values that a template draws from;
* `Stop`               why an instance can end early;
* `Template.write`     writes an instance, piece by piece, until a piece does not fit;
* `Template.render`    an instance as text.
-/

namespace Telemetry.Template

open Telemetry.Random

/-- the values that a template draws from -/
structure Source where
  /-- the number of entities -/
  count : UInt64
  /-- the value of a tag of an entity, if both exist -/
  value? : (entity key : Nat) → Option String
  start : Int64
  stop : Int64
  now : Int64

/-- why an instance ends early -/
inductive Stop where
  /-- the sink is full -/
  | full
  /-- the source has no such entity or tag -/
  | noValue
deriving DecidableEq, Repr

/-- a computation that writes to a sink and takes draws, until it stops -/
abbrev Writing := ExceptT Stop (StateT Sink Draw)

/-- writes a piece of text -/
def put (text : String) : Writing Unit := do
  let (sink, whole) := (← get).write text.toUTF8
  set sink
  if whole then pure () else throw .full

/-- what stands between the values of a repeated tag -/
def separator : String := "','"

/-- the text of a bound -/
def Source.boundText (src : Source) : Bound → String
  | .start => (Instant.ofNanos src.start).rfc3339
  | .stop => (Instant.ofNanos src.stop).rfc3339
  | .now => (Instant.ofNanos src.now).rfc3339
  | .startNanos => String.ofList (Decimal.signed src.start.toInt)
  | .stopNanos => String.ofList (Decimal.signed src.stop.toInt)
  | .nowNanos => String.ofList (Decimal.signed src.now.toInt)

/-- the number of entities that can be drawn -/
def Source.drawable (src : Source) : UInt32 := src.count.toUInt32

/-- writes the value of a tag -/
def putValue (src : Source) (key : Nat) (entity : UInt32) : Writing Unit :=
  match src.value? entity.toNat key with
  | some value => put value
  | none => throw .noValue

/-- draws an entity -/
def pick (src : Source) : Writing UInt32 := liftM (below src.drawable)

/-- writes the values of a repeated tag, each after a separator -/
def putMore (src : Source) (key : Nat) : Nat → Writing Unit
  | 0 => pure ()
  | n + 1 => do
    put separator
    putValue src key (← pick src)
    putMore src key n

/-- writes one segment -/
def putSegment (src : Source) (primary : UInt32) : Segment → Writing Unit
  | .literal text => put text
  | .placeholder (.bound b) _ => put (src.boundText b)
  | .placeholder (.tag _) 0 => pure ()
  | .placeholder (.tag key) 1 => putValue src key primary
  | .placeholder (.tag key) (n + 2) => do
    putValue src key (← pick src)
    putMore src key (n + 1)

/-- writes the segments in order -/
def putSegments (src : Source) (primary : UInt32) : List Segment → Writing Unit
  | [] => pure ()
  | s :: rest => do
    putSegment src primary s
    putSegments src primary rest

/-- writes an instance -/
def putAll (t : Template) (src : Source) : Writing Unit := do
  let primary ← pick src
  putSegments src primary t.segments

def write (t : Template) (src : Source) (sink : Sink) : Draw (Except Stop Unit × Sink) :=
  (t.putAll src).run.run sink

/-- an instance as text, if the source has all its values -/
def render (t : Template) (src : Source) : Draw (Option String) := do
  match ← t.write src {} with
  | (.ok (), sink) => return some sink.text
  | (.error _, _) => return none

end Telemetry.Template
