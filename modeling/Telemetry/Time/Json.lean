import Telemetry.Json.Record
import Telemetry.Time.Duration
import Telemetry.Time.Instant
import Telemetry.Time.Window

/-!
# Times in JSON

* a duration is a closed record of seconds and nanoseconds; whole seconds of the latter are carried;
* an instant is its text;
* a window is a record of its start and its end.
-/

namespace Telemetry

/-- the JSON form of a duration -/
def Duration.toJson (d : Duration) : Json :=
  .object [("secs", .ofNat d.seconds.toNat), ("nanos", .ofNat d.nanos.toNat)]

/-- a number of nanoseconds that fits in 32 bits -/
def Duration.nanos? (j : Json) : Option UInt32 :=
  j.unsigned?.bind fun n => if n.toNat < UInt32.size then some n.toUInt32 else none

/-- the duration that a record holds -/
def Duration.ofJson? (j : Json) : Option Duration := do
  let r ← Json.Record.ofJson? true ["secs", "nanos"] j
  Duration.normal? (← r.field? "secs" Json.unsigned?) (← r.field? "nanos" Duration.nanos?)

/-- the JSON form of an instant -/
def Instant.toJson (t : Instant) : Json := .string t.rfc3339

/-- the instant that a text names -/
def Instant.ofJson? (j : Json) : Option Instant := j.string?.bind Instant.read?

/-- the JSON form of a window -/
def Window.toJson (w : Window) : Json :=
  .object [("start", .ofInt w.start.toInt), ("end", .ofInt w.stop.toInt)]

/-- the window that a record holds -/
def Window.ofJson? (j : Json) : Option Window := do
  let r ← Json.Record.ofJson? false ["start", "end"] j
  return ⟨← r.field? "start" Json.signed?, ← r.field? "end" Json.signed?⟩

end Telemetry
