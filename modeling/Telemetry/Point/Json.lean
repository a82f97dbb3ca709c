import Telemetry.Json.Record
import Telemetry.Point.Basic

/-!
# Points in JSON

* `Point.toJson`         a row as an object;
* `FieldValue.toJson`    a value as an object of its type and itself;
* `FieldValue.ofJson?`   reads that object; a whole number may stand for a float.
-/

namespace Telemetry

/-- the JSON form of a field value: its type and the value -/
def FieldValue.toJson : FieldValue → Json
  | .float x => .object [("Float", .ofFloat x)]
  | .integer i => .object [("Integer", .ofInt i.toInt)]
  | .unsigned u => .object [("UnsignedInteger", .ofNat u.toNat)]
  | .boolean b => .object [("Boolean", .bool b)]

def FieldValue.ofJson? : Json → Option FieldValue
  | .object [(type, j)] =>
    if type = "Float" then j.float?.map .float
    else if type = "Integer" then j.signed?.map .integer
    else if type = "UnsignedInteger" then j.unsigned?.map .unsigned
    else if type = "Boolean" then j.bool?.map .boolean
    else none
  | _ => none

def Tag.toJson (t : Tag) : Json := .object [("key", .string t.key), ("value", .string t.value)]

def Field.toJson (f : Field) : Json := .object [("key", .string f.key), ("value", f.value.toJson)]

def Point.toJson (p : Point) : Json :=
  .object [
    ("measurement", .string p.measurement),
    ("timestamp", .ofInt p.timestamp.toInt),
    ("tags", .array (p.tags.map Tag.toJson)),
    ("fields", .array (p.fields.map Field.toJson))]

end Telemetry
