import Telemetry.Template.Basic

/-!
# Writing templates

* `Segment.text`   a part of a template as it is written: a tag with its count, a bound by its name;
* `written`        the parts of a template in a row.
-/

namespace Telemetry.Template

/-- a part as it is written, given the tag keys -/
def Segment.text (keys : List String) : Segment → String
  | .literal text => text
  | .placeholder (.tag key) times =>
    inBraces ((keys[key]?).getD "" ++ ":" ++ String.ofList (Decimal.digits times))
  | .placeholder (.bound b) _ => inBraces b.name

def written (keys : List String) (segments : List Segment) : String :=
  String.join (segments.map (Segment.text keys))

end Telemetry.Template
