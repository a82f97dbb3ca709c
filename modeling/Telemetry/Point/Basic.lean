/-!
# Points

A point is one row of a time series: a measurement name, a time in nanoseconds since 1970, tags that
say which series it belongs to, and fields that hold its values.

* `FieldValue`            a float, a signed or unsigned integer, or a boolean;
* `Tag`, `Field`, `Point` the row and its parts;
* `Point.Defect`          what can be missing in a row, and `Point.defect?` the first thing missing;
* `Point.appendTag`, `Point.appendField`  tags and fields are only ever added at the end;
* `Point.reset`           a point as it was in the beginning;
* `Point.added`           a point with a name and with tags and fields added: what setting the name
                          and adding tags and fields one by one come to.
-/

namespace Telemetry

/-- the value of a field -/
inductive FieldValue where
  | float (x : Float)
  | integer (i : Int64)
  | unsigned (u : UInt64)
  | boolean (b : Bool)

namespace FieldValue

/-- the name of the value's type -/
def typeName : FieldValue → String
  | .float _ => "float"
  | .integer _ => "integer"
  | .unsigned _ => "unsigned"
  | .boolean _ => "boolean"

/-- the value as a float; a boolean has none -/
def asFloat? : FieldValue → Option Float
  | .float x => some x
  | .integer i => some i.toFloat
  | .unsigned u => some u.toFloat
  | .boolean _ => none

/-- the value as an unsigned integer; only integers that are not negative have one -/
def asUnsigned? : FieldValue → Option UInt64
  | .unsigned u => some u
  | .integer i => if 0 ≤ i then some i.toUInt64 else none
  | _ => none

/-- the value as a boolean -/
def asBool? : FieldValue → Option Bool
  | .boolean b => some b
  | _ => none

end FieldValue

/-- a key and a value that identify a series -/
structure Tag where
  key : String
  value : String
deriving DecidableEq, Repr

/-- a named value of a row -/
structure Field where
  key : String
  value : FieldValue

/-- one row of a time series -/
structure Point where
  measurement : String := ""
  /-- nanoseconds since 1970 -/
  timestamp : Int64 := 0
  tags : List Tag := []
  fields : List Field := []

namespace Point

/-- what keeps a row from being complete -/
inductive Defect where
  | emptyMeasurement
  | emptyTagKey
  | emptyFieldKey
  | noFields
deriving DecidableEq, Repr

/-- the text of a defect -/
def Defect.message : Defect → String
  | .emptyMeasurement => "Empty measurement name"
  | .emptyTagKey => "Empty tag key"
  | .emptyFieldKey => "Empty field key"
  | .noFields => "No fields provided"

end Point

def Tag.defect? (t : Tag) : Option Point.Defect :=
  if t.key.isEmpty then some .emptyTagKey else none

def Field.defect? (f : Field) : Option Point.Defect :=
  if f.key.isEmpty then some .emptyFieldKey else none

namespace Point

/-- the first defect of a row: the name, then a missing field, then empty keys in order -/
def defect? (p : Point) : Option Defect :=
  if p.measurement.isEmpty then some .emptyMeasurement
  else if p.fields.isEmpty then some .noFields
  else (p.tags.findSome? Tag.defect?).or (p.fields.findSome? Field.defect?)

def setMeasurement (p : Point) (name : String) : Point := { p with measurement := name }

def setTimestamp (p : Point) (t : Int64) : Point := { p with timestamp := t }

/-- the point with its name, its time, its tags and its fields cleared -/
def reset (p : Point) : Point :=
  { p with measurement := "", timestamp := 0, tags := [], fields := [] }

def appendTag (p : Point) (key value : String) : Point :=
  { p with tags := p.tags ++ [⟨key, value⟩] }

def appendField (p : Point) (key : String) (value : FieldValue) : Point :=
  { p with fields := p.fields ++ [⟨key, value⟩] }

/-- the value of the first tag with a key -/
def tag? (p : Point) (key : String) : Option String := (p.tags.find? (·.key == key)).map (·.value)

/-- the value of the first field with a key -/
def field? (p : Point) (key : String) : Option FieldValue :=
  (p.fields.find? (·.key == key)).map (·.value)

/-- the tag keys in order -/
def tagKeys (p : Point) : List String := p.tags.map (·.key)

/-- the field keys in order -/
def fieldKeys (p : Point) : List String := p.fields.map (·.key)

/-! ## equations -/

/-- whatever it held, a point that is reset is empty -/
theorem reset_eq (p : Point) : p.reset = {} := rfl

/-- a point with a name, and with tags and fields added -/
def added (p : Point) (name : String) (tags : List Tag) (fields : List Field) : Point :=
  { p with measurement := name, tags := p.tags ++ tags, fields := p.fields ++ fields }

section
variable (p : Point) (name : String) (tags : List Tag) (fields : List Field)

@[simp] theorem setMeasurement_eq_added : p.setMeasurement name = p.added name [] [] := by
  rw [added, List.append_nil, List.append_nil, setMeasurement]

@[simp] theorem added_appendTag (k v : String) :
    (p.added name tags fields).appendTag k v = p.added name (tags ++ [⟨k, v⟩]) fields := by
  rw [added, appendTag, added, List.append_assoc]

@[simp] theorem added_appendField (k : String) (v : FieldValue) :
    (p.added name tags fields).appendField k v = p.added name tags (fields ++ [⟨k, v⟩]) := by
  rw [added, appendField, added, List.append_assoc]

end

end Point

end Telemetry
