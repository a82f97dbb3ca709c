import Telemetry.Error
import Telemetry.Point.Json
import Telemetry.Point.LineProtocol

/-!
# Output formats

* `Format`          line protocol, or one JSON object per row;
* `Format.encode`   a row with its line feed.
-/

namespace Telemetry

/-- how rows are written -/
inductive Format where
  | line
  | json
deriving DecidableEq, Repr

namespace Format

/-- the name of a format -/
def name : Format → String
  | .line => "line"
  | .json => "json"

/-- the format of a name -/
def ofName? (s : String) : Option Format :=
  if s = "line" ∨ s = "lp" then some .line
  else if s = "json" then some .json
  else none

def encode (format : Format) (p : Point) : String :=
  match format with
  | .line => p.lineText
  | .json => p.toJson.text ++ "\n"

end Format

end Telemetry
