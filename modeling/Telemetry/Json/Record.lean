import Telemetry.Json.Number
import Telemetry.Json.Reader

/-!
# Records and choices in JSON

A record is written as an object with its fields, or as an array with the fields in order.  A choice
without content is written as its name, or as an object with the name and `null`.

* `Record.ofJson?`   the fields that are there: an object may name a field once, and may name other
                     things unless the record is closed; an array has no more items than fields;
* `Record.field?`    a field that has to be there;
* `Record.fieldD`    a field that has a default;
* `choiceName?`      the name of a choice;
* `items?`           the items of an array, each read on its own.
-/

namespace Telemetry.Json

/-- the fields of a record that are there -/
structure Record where
  fields : List (String × Json)

namespace Record

/-- how often a name is a key of members -/
def count (name : String) (members : List (String × Json)) : Nat := members.countP (·.1 == name)

/-- the fields of a value; a closed record has no other members -/
def ofJson? (closed : Bool) (names : List String) : Json → Option Record
  | .object members =>
    if names.all (fun name => count name members ≤ 1)
        && (!closed || members.all fun m => names.contains m.1) then
      some ⟨members.filter fun m => names.contains m.1⟩
    else none
  | .array items => if items.length ≤ names.length then some ⟨names.zip items⟩ else none
  | _ => none

def field? {α : Type} (r : Record) (name : String) (read : Json → Option α) : Option α :=
  (r.fields.lookup name).bind read

def fieldD {α : Type} (r : Record) (name : String) (read : Json → Option α) (default : α) :
    Option α :=
  match r.fields.lookup name with
  | some j => read j
  | none => some default

end Record

def choiceName? : Json → Option String
  | .string name => some name
  | .object [(name, .null)] => some name
  | _ => none

/-- the items of an array, each read on its own -/
def items? {α : Type} (read : Json → Option α) : Json → Option (List α)
  | .array items => items.mapM read
  | _ => none

/-- the text of a string -/
def string? : Json → Option String
  | .string s => some s
  | _ => none

/-- a truth value -/
def bool? : Json → Option Bool
  | .bool b => some b
  | _ => none

end Telemetry.Json
