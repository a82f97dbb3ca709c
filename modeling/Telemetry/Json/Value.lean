import Telemetry.Decimal.Layout

/-!
# JSON values and their text

* `Json`            a value; a number is kept as it is spelled, and the members of an object keep
                    their order and their repetitions;
* `Json.escape`     the escapes of a string: `"`, `\`, and the control characters;
* `Json.numbers`    how floats are written: always with a point or an exponent;
* `Json.chars`      the compact text of a value, without a blank;
* `Json.sorted`     the value with the members of every object in the order of their keys.

A string or an object key may spell half of a surrogate pair, which stands for no character.  Such a
value is `garbled`: it may be skipped, but it has no content.
-/

namespace Telemetry

/-- a JSON value -/
inductive Json where
  | null
  | bool (b : Bool)
  | number (literal : String)
  | string (s : String)
  | garbled
  | array (items : List Json)
  | object (members : List (String × Json))
deriving Inhabited

namespace Json

/-! ## numbers -/

/-- floats keep a point after whole numbers, and sizes outside `10^-5 … 10^15` get an exponent -/
def numbers : Decimal.Layout where
  positional := fun k => -5 ≤ k && k ≤ 15
  wholeEnd := ['.', '0']
  tie := .even
  nan := ['n', 'u', 'l', 'l']
  infinity := ['n', 'u', 'l', 'l']
  negativeInfinity := ['n', 'u', 'l', 'l']

/-- a natural number -/
def ofNat (n : Nat) : Json := .number (String.ofList (Decimal.digits n))

/-- an integer -/
def ofInt (i : Int) : Json := .number (String.ofList (Decimal.signed i))

/-- a float; JSON has no number for infinities and for what is not a number -/
def ofFloat (x : Float) : Json := .number (String.ofList (numbers.text x))

/-! ## text -/

/-- a digit of an escape -/
def hexDigit (n : Nat) : Char := Nat.digitChar n

/-- the escape of a character inside a string -/
def escapeChar (c : Char) : List Char :=
  match c with
  | '"' => ['\\', '"']
  | '\\' => ['\\', '\\']
  | '\x08' => ['\\', 'b']
  | '\x0c' => ['\\', 'f']
  | '\n' => ['\\', 'n']
  | '\r' => ['\\', 'r']
  | '\t' => ['\\', 't']
  | c =>
    if c.toNat < 0x20 then
      ['\\', 'u', '0', '0', hexDigit (c.toNat / 16), hexDigit (c.toNat % 16)]
    else [c]

/-- the characters of a string, escaped -/
def escape (cs : List Char) : List Char := cs.flatMap escapeChar

/-- a string in its quotes -/
def quoted (s : String) : List Char := '"' :: (escape s.toList ++ ['"'])

mutual

def chars : Json → List Char
  | .null => ['n', 'u', 'l', 'l']
  | .bool true => ['t', 'r', 'u', 'e']
  | .bool false => ['f', 'a', 'l', 's', 'e']
  | .number literal => literal.toList
  | .string s => quoted s
  | .garbled => ['n', 'u', 'l', 'l']
  | .array items => '[' :: (itemChars items ++ [']'])
  | .object members => '{' :: (memberChars members ++ ['}'])

/-- the items of an array, with commas between them -/
def itemChars : List Json → List Char
  | [] => []
  | [j] => chars j
  | j :: rest => chars j ++ ',' :: itemChars rest

/-- the members of an object, with commas between them -/
def memberChars : List (String × Json) → List Char
  | [] => []
  | [(k, j)] => quoted k ++ ':' :: chars j
  | (k, j) :: rest => quoted k ++ ':' :: (chars j ++ ',' :: memberChars rest)

end

/-- the compact text of a value -/
def text (j : Json) : String := String.ofList j.chars

/-! ## sorted members -/

/-- whether a member's key comes before another's, by code points -/
def keyLe (a b : String × Json) : Bool := !(b.1 < a.1)

mutual

/-- the value with the members of every object in the order of their keys -/
def sorted : Json → Json
  | .array items => .array (sortedItems items)
  | .object members => .object ((sortedMembers members).mergeSort keyLe)
  | j => j

/-- every item sorted inside -/
def sortedItems : List Json → List Json
  | [] => []
  | j :: rest => sorted j :: sortedItems rest

/-- every member sorted inside -/
def sortedMembers : List (String × Json) → List (String × Json)
  | [] => []
  | (k, j) :: rest => (k, sorted j) :: sortedMembers rest

end

end Json

end Telemetry
