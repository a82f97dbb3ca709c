import Telemetry.Time.Duration
import Telemetry.Time.Instant
import Telemetry.Time.Window

/-!
# Errors

What can be wrong with a configuration, a template or an output, as causes, and the text of each.

* `ConfigFault`    a setting that does not fit;
* `Malformation`   a placeholder that is written in a wrong way;
* `Fault`          any error of the library;
* `Fault.message`  its text.
-/

namespace Telemetry

/-- a setting that does not fit -/
inductive ConfigFault where
  | unknownWorkload (name : String)
  | unknownFormat (name : String)
  | unknownMeasurement (name : String)
  | emptyRegionTable
  | zeroDevicesPerSite
  /-- a fleet without entities -/
  | noEntities
  /-- entities without measurements -/
  | noMeasurements
  | unequalEntities
  | badInterval (interval : Duration)
  | emptyWindow (window : Window)
  | wideWindow (window : Window)
  | tooManyPoints
  | reversedBounds (start stop : Instant)
  | zeroInterval
  | zeroEntityCount
  | zeroAxisOrPoints
  | zeroAxis
  | zeroPoints
  /-- a workload that is no fleet where a fleet is asked for -/
  | noFleet
deriving DecidableEq, Repr

/-- the bounds of a window as `[start, stop)` -/
def Window.text (w : Window) : String :=
  "[" ++ String.ofList (Decimal.signed w.start.toInt) ++ ", "
    ++ String.ofList (Decimal.signed w.stop.toInt) ++ ")"

def ConfigFault.message : ConfigFault → String
  | .unknownWorkload name => "unknown workload '" ++ name ++ "'"
  | .unknownFormat name => "unknown output format '" ++ name ++ "'"
  | .unknownMeasurement name => "unknown measurement '" ++ name ++ "'"
  | .emptyRegionTable => "region table is empty"
  | .zeroDevicesPerSite => "devices_per_site must be positive"
  | .noEntities => "entity count must be positive"
  | .noMeasurements => "entities must carry at least one measurement"
  | .unequalEntities => "entities must share one measurement count and tag schema"
  | .badInterval interval => "invalid interval " ++ interval.text
  | .emptyWindow window => "empty time window " ++ window.text
  | .wideWindow window => "time window " ++ window.text ++ " is too wide"
  | .tooManyPoints => "total point count overflows"
  | .reversedBounds start stop =>
    "end (" ++ stop.plain ++ ") must be after start (" ++ start.plain ++ ")"
  | .zeroInterval => "interval must be positive"
  | .zeroEntityCount => "entity_count must be positive"
  | .zeroAxisOrPoints => "axis and points must be positive"
  | .zeroAxis => "axis must be positive"
  | .zeroPoints => "points must be positive"
  | .noFleet => "the metaquery workload is single-threaded; use build_metaquery"

/-- two braces, which open a placeholder -/
def openBraces : String := "\x7b\x7b"

/-- two braces, which close a placeholder -/
def closeBraces : String := "\x7d\x7d"

/-- a name in double braces -/
def inBraces (name : String) : String := openBraces ++ name ++ closeBraces

/-- a placeholder, or the default for its repetitions, that is written in a wrong way -/
inductive Malformation where
  | zeroRepeat
  | unterminated
  | badCount (body : String)
  | badName (name : String)
  /-- a count after a name that stands for one value -/
  | repeatedBound (name : String)
deriving DecidableEq, Repr

def Malformation.message : Malformation → String
  | .zeroRepeat => "repeat count must be positive"
  | .unterminated => "unterminated '" ++ openBraces ++ "'"
  | .badCount body => "invalid count in '" ++ inBraces body ++ "'"
  | .badName name => "invalid name '" ++ name ++ "'"
  | .repeatedBound name => "'" ++ name ++ "' cannot repeat"

/-- an error of the library -/
inductive Fault where
  | unknownPlaceholder (template name : String)
  | malformedPlaceholder (template : String) (reason : Malformation)
  | noTemplates
  | invalidConfig (fault : ConfigFault)
  /-- the output failed with a text of its own -/
  | output (reason : String)
  /-- an instant, in seconds, that has no timestamp -/
  | invalidTimestamp (seconds : Int)
deriving DecidableEq, Repr

def Fault.message : Fault → String
  | .unknownPlaceholder template name =>
    "Unknown placeholder '" ++ inBraces name ++ "' in template: " ++ template
  | .malformedPlaceholder template reason =>
    "Malformed placeholder in template (" ++ reason.message ++ "): " ++ template
  | .noTemplates => "No SQL templates configured"
  | .invalidConfig fault => "Invalid configuration: " ++ fault.message
  | .output reason => "Output error: " ++ reason
  | .invalidTimestamp seconds =>
    "Invalid timestamp: " ++ String.ofList (Decimal.signed seconds)

end Telemetry
