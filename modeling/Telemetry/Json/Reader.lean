import Telemetry.Json.Token
import Telemetry.Json.Value

/-!
# Reading JSON

A value is read from its tokens with a stack of the arrays and objects that are still open, so
nesting has no limit.

* `Frame`       an open array or object with what has been read of it;
* `Expecting`   what may come next;
* `Progress.feed?`  the state after one more token, if the token may come there;
* `Json.read?`  the value that a text spells, if it spells exactly one.
-/

namespace Telemetry.Json

/-- an array or object that is still open, its parts in reverse order -/
inductive Frame where
  | array (items : List Json)
  /-- the key belongs to the value that is being read; a missing key is a garbled one -/
  | object (members : List (Option String × Json)) (key : Option String)

/-- what may come next -/
inductive Expecting where
  | value
  /-- right after `[` -/
  | itemOrEnd
  /-- right after `{` -/
  | keyOrEnd
  /-- after a comma in an object; the members read so far are on hold -/
  | key (members : List (Option String × Json))
  | colon (members : List (Option String × Json)) (key : Option String)
  /-- after a whole value -/
  | afterValue (value : Json)

/-- the open arrays and objects, innermost first, and what may come next -/
structure Progress where
  stack : List Frame
  next : Expecting

/-- the object of members in reverse order; one garbled key garbles it -/
def closeObject (members : List (Option String × Json)) : Json :=
  if members.all (·.1.isSome) then
    .object (members.reverse.map fun (k, j) => (k.getD "", j))
  else .garbled

/-- a value that starts with the token -/
def Progress.start? (stack : List Frame) : Token → Option Progress
  | .null => some ⟨stack, .afterValue .null⟩
  | .bool b => some ⟨stack, .afterValue (.bool b)⟩
  | .number literal => some ⟨stack, .afterValue (.number literal)⟩
  | .string (some s) => some ⟨stack, .afterValue (.string s)⟩
  | .string none => some ⟨stack, .afterValue .garbled⟩
  | .mark '[' => some ⟨stack, .itemOrEnd⟩
  | .mark '{' => some ⟨stack, .keyOrEnd⟩
  | .mark _ => none

/-- what follows a value inside the innermost open array or object -/
def Progress.follow? (value : Json) : List Frame → Token → Option Progress
  | .array items :: stack, .mark ',' => some ⟨.array (value :: items) :: stack, .value⟩
  | .array items :: stack, .mark ']' =>
    some ⟨stack, .afterValue (.array (value :: items).reverse)⟩
  | .object members key :: stack, .mark ',' => some ⟨stack, .key ((key, value) :: members)⟩
  | .object members key :: stack, .mark '}' =>
    some ⟨stack, .afterValue (closeObject ((key, value) :: members))⟩
  | _, _ => none

def Progress.feed? (p : Progress) (t : Token) : Option Progress :=
  match p.next, t with
  | .value, t => start? p.stack t
  | .itemOrEnd, .mark ']' => some ⟨p.stack, .afterValue (.array [])⟩
  | .itemOrEnd, t => start? (.array [] :: p.stack) t
  | .keyOrEnd, .mark '}' => some ⟨p.stack, .afterValue (.object [])⟩
  | .keyOrEnd, .string key => some ⟨p.stack, .colon [] key⟩
  | .key members, .string key => some ⟨p.stack, .colon members key⟩
  | .colon members key, .mark ':' => some ⟨.object members key :: p.stack, .value⟩
  | .afterValue value, t => follow? value p.stack t
  | _, _ => none

/-- the value of a list of tokens, if they spell exactly one -/
def ofTokens? (ts : List Token) : Option Json := do
  match ← ts.foldlM Progress.feed? ⟨[], .value⟩ with
  | ⟨[], .afterValue value⟩ => some value
  | _ => none

def read? (s : String) : Option Json := do
  ofTokens? (← Token.scan? s.toList)

end Telemetry.Json
