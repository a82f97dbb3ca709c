/-!
# The tokens of a JSON text

* `Token`            a mark, a word, a number or a string;
* `Token.scan?`      the tokens of a text, or nothing where the text is not made of tokens.

A string is read piece by piece: a piece is a character, or a 16-bit unit that an escape names.  Two
units that form a surrogate pair are one character; a unit that is left alone makes the string
meaningless (`none`), not the text.
-/

namespace Telemetry.Json

/-- a token of a JSON text -/
inductive Token where
  /-- one of `{`, `}`, `[`, `]`, `,`, `:` -/
  | mark (c : Char)
  | null
  | bool (b : Bool)
  | number (literal : String)
  /-- a string, without content where its escapes name half of a pair -/
  | string (s : Option String)
deriving DecidableEq, Repr

/-- blanks between tokens -/
def isBlank (c : Char) : Bool := c == ' ' || c == '\n' || c == '\t' || c == '\r'

/-- the marks of the grammar -/
def isMark (c : Char) : Bool :=
  c == '{' || c == '}' || c == '[' || c == ']' || c == ',' || c == ':'

/-! ## strings -/

/-- what one step through a string yields -/
inductive Piece where
  | char (c : Char)
  | unit (u : Nat)
deriving DecidableEq, Repr

/-- the value of a hexadecimal digit -/
def hexValue? (c : Char) : Option Nat :=
  if c.isDigit then some (c.toNat - '0'.toNat)
  else if 'a' ≤ c ∧ c ≤ 'f' then some (c.toNat - 'a'.toNat + 10)
  else if 'A' ≤ c ∧ c ≤ 'F' then some (c.toNat - 'A'.toNat + 10)
  else none

/-- the 16-bit unit of four hexadecimal digits -/
def unit? (a b c d : Char) : Option Nat := do
  return ((((← hexValue? a) * 16 + (← hexValue? b)) * 16 + (← hexValue? c)) * 16 + (← hexValue? d))

/-- the character of a one-letter escape -/
def shortEscape? (c : Char) : Option Char :=
  match c with
  | '"' => some '"'
  | '\\' => some '\\'
  | '/' => some '/'
  | 'b' => some '\x08'
  | 'f' => some '\x0c'
  | 'n' => some '\n'
  | 'r' => some '\r'
  | 't' => some '\t'
  | _ => none

/-- the pieces up to the closing quote, and what follows it; a string holds no control character -/
def scanString : List Char → Option (List Piece × List Char)
  | '"' :: rest => some ([], rest)
  | '\\' :: 'u' :: a :: b :: c :: d :: rest =>
    match unit? a b c d, scanString rest with
    | some u, some (ps, after) => some (.unit u :: ps, after)
    | _, _ => none
  | '\\' :: e :: rest =>
    match shortEscape? e, scanString rest with
    | some c, some (ps, after) => some (.char c :: ps, after)
    | _, _ => none
  | c :: rest =>
    if c = '\\' ∨ c.toNat < 0x20 then none
    else
      match scanString rest with
      | some (ps, after) => some (.char c :: ps, after)
      | none => none
  | [] => none

theorem scanString_length {cs after : List Char} {ps : List Piece}
    (h : scanString cs = some (ps, after)) : after.length < cs.length := by
  fun_induction scanString cs generalizing ps with
  | case1 rest =>
    obtain ⟨_, rfl⟩ := by simpa using h
    simp
  | case2 a b c d rest u ps' after' hs _ ih =>
    obtain ⟨_, rfl⟩ := by simpa using h
    have := ih hs
    simp only [List.length_cons]
    omega
  | case4 e rest _ c ps' after' hs _ ih =>
    obtain ⟨_, rfl⟩ := by simpa using h
    have := ih hs
    simp only [List.length_cons]
    omega
  | case7 c rest _ _ _ _ ps' after' hs ih =>
    obtain ⟨_, rfl⟩ := by simpa using h
    have := ih hs
    simp only [List.length_cons]
    omega
  | _ => simp at h

/-- a unit that opens a surrogate pair -/
def opensPair (u : Nat) : Bool := 0xD800 ≤ u && u ≤ 0xDBFF

/-- a unit that closes a surrogate pair -/
def closesPair (u : Nat) : Bool := 0xDC00 ≤ u && u ≤ 0xDFFF

/-- the characters of the pieces, unless a unit is left alone -/
def joinPieces : List Piece → Option (List Char)
  | [] => some []
  | .char c :: rest => (joinPieces rest).map (c :: ·)
  | [.unit u] => if opensPair u || closesPair u then none else some [Char.ofNat u]
  | .unit u :: .unit v :: rest =>
    if opensPair u then
      if closesPair v then
        (joinPieces rest).map (Char.ofNat (0x10000 + (u - 0xD800) * 0x400 + (v - 0xDC00)) :: ·)
      else none
    else if closesPair u then none
    else (joinPieces (.unit v :: rest)).map (Char.ofNat u :: ·)
  | .unit u :: .char c :: rest =>
    if opensPair u || closesPair u then none
    else (joinPieces (.char c :: rest)).map (Char.ofNat u :: ·)

/-! ## numbers -/

/-- the digits at the front, and what follows them -/
def spanDigits (cs : List Char) : List Char × List Char :=
  (cs.takeWhile Char.isDigit, cs.dropWhile Char.isDigit)

/-- a whole part: one zero, or digits that do not start with one -/
def scanWhole? : List Char → Option (List Char × List Char)
  | '0' :: rest => some (['0'], rest)
  | c :: rest => if c.isDigit then some (spanDigits (c :: rest)) else none
  | [] => none

/-- a point and at least one digit, or nothing where there is no point -/
def scanFraction? : List Char → Option (List Char × List Char)
  | '.' :: rest =>
    let (ds, after) := spanDigits rest
    if ds.isEmpty then none else some ('.' :: ds, after)
  | cs => some ([], cs)

/-- the sign of an exponent, if it has one -/
def scanSign : List Char → List Char × List Char
  | '+' :: rest => (['+'], rest)
  | '-' :: rest => (['-'], rest)
  | cs => ([], cs)

/-- an exponent with at least one digit, or nothing where there is none -/
def scanExponent? : List Char → Option (List Char × List Char)
  | c :: rest =>
    if c = 'e' ∨ c = 'E' then
      let (sign, digits) := scanSign rest
      let (ds, after) := spanDigits digits
      if ds.isEmpty then none else some (c :: (sign ++ ds), after)
    else some ([], c :: rest)
  | [] => some ([], [])

/-- a number without its sign -/
def scanUnsigned? (cs : List Char) : Option (List Char × List Char) := do
  let (whole, rest) ← scanWhole? cs
  let (fraction, rest) ← scanFraction? rest
  let (exponent, rest) ← scanExponent? rest
  return (whole ++ fraction ++ exponent, rest)

/-- a number -/
def scanNumber? : List Char → Option (List Char × List Char)
  | '-' :: rest => (scanUnsigned? rest).map fun (literal, after) => ('-' :: literal, after)
  | cs => scanUnsigned? cs

/-! ## what is left gets shorter -/

theorem spanDigits_length (cs : List Char) : (spanDigits cs).2.length ≤ cs.length :=
  (List.dropWhile_suffix _).length_le

theorem scanWhole?_length {cs ds after : List Char} (h : scanWhole? cs = some (ds, after)) :
    after.length < cs.length := by
  unfold scanWhole? at h
  split at h
  · obtain ⟨_, rfl⟩ := by simpa using h
    simp
  · rename_i c rest _
    split at h
    · rename_i hc
      obtain ⟨_, rfl⟩ := by simpa [spanDigits, hc] using h
      exact Nat.lt_succ_of_le (List.dropWhile_suffix _).length_le
    · simp at h
  · simp at h

theorem scanFraction?_length {cs ds after : List Char} (h : scanFraction? cs = some (ds, after)) :
    after.length ≤ cs.length := by
  unfold scanFraction? at h
  split at h
  · rename_i rest
    have := spanDigits_length rest
    obtain ⟨_, _, rfl⟩ := by simpa using h
    simp only [List.length_cons]
    omega
  · obtain ⟨_, rfl⟩ := by simpa using h
    exact Nat.le_refl _

theorem scanSign_length (cs : List Char) : (scanSign cs).2.length ≤ cs.length := by
  unfold scanSign
  split <;> simp

theorem scanExponent?_length {cs ds after : List Char} (h : scanExponent? cs = some (ds, after)) :
    after.length ≤ cs.length := by
  unfold scanExponent? at h
  split at h
  · rename_i c rest
    split at h
    · have := scanSign_length rest
      have := spanDigits_length (scanSign rest).2
      obtain ⟨_, _, rfl⟩ := by simpa using h
      simp only [List.length_cons]
      omega
    · obtain ⟨_, rfl⟩ := by simpa using h
      exact Nat.le_refl _
  · obtain ⟨_, rfl⟩ := by simpa using h
    exact Nat.le_refl _

theorem scanUnsigned?_length {cs ds after : List Char} (h : scanUnsigned? cs = some (ds, after)) :
    after.length < cs.length := by
  simp only [scanUnsigned?, Option.bind_eq_bind, Option.bind_eq_some_iff, Prod.exists] at h
  obtain ⟨_, _, hw, _, _, hf, _, _, he, h⟩ := h
  obtain ⟨_, rfl⟩ := by simpa using h
  have := scanWhole?_length hw
  have := scanFraction?_length hf
  have := scanExponent?_length he
  omega

theorem scanNumber?_length {cs ds after : List Char} (h : scanNumber? cs = some (ds, after)) :
    after.length < cs.length := by
  unfold scanNumber? at h
  split at h
  · obtain ⟨⟨_, _⟩, hu, he⟩ := Option.map_eq_some_iff.1 h
    obtain ⟨_, rfl⟩ := by simpa using he
    exact Nat.lt_succ_of_lt (scanUnsigned?_length hu)
  · exact scanUnsigned?_length h

/-! ## tokens -/

/-- the first token of a text that does not start with a blank, and what follows it -/
def scanToken? : List Char → Option (Token × List Char)
  | 'n' :: 'u' :: 'l' :: 'l' :: rest => some (.null, rest)
  | 't' :: 'r' :: 'u' :: 'e' :: rest => some (.bool true, rest)
  | 'f' :: 'a' :: 'l' :: 's' :: 'e' :: rest => some (.bool false, rest)
  | '"' :: rest =>
    (scanString rest).map fun (ps, after) => (.string ((joinPieces ps).map String.ofList), after)
  | c :: rest =>
    if isMark c then some (.mark c, rest)
    else
      (scanNumber? (c :: rest)).map fun (literal, after) =>
        (.number (String.ofList literal), after)
  | [] => none

theorem scanToken?_length {cs after : List Char} {t : Token}
    (h : scanToken? cs = some (t, after)) : after.length < cs.length := by
  unfold scanToken? at h
  split at h
  · obtain ⟨_, rfl⟩ := by simpa using h
    simp only [List.length_cons]
    omega
  · obtain ⟨_, rfl⟩ := by simpa using h
    simp only [List.length_cons]
    omega
  · obtain ⟨_, rfl⟩ := by simpa using h
    simp only [List.length_cons]
    omega
  · obtain ⟨⟨_, _⟩, hs, he⟩ := Option.map_eq_some_iff.1 h
    obtain ⟨_, rfl⟩ := by simpa using he
    exact Nat.lt_succ_of_lt (scanString_length hs)
  · split at h
    · obtain ⟨_, rfl⟩ := by simpa using h
      simp
    · obtain ⟨⟨_, _⟩, hn, he⟩ := Option.map_eq_some_iff.1 h
      obtain ⟨_, rfl⟩ := by simpa using he
      exact scanNumber?_length hn
  · simp at h

def Token.scan? (cs : List Char) : Option (List Token) :=
  match cs with
  | [] => some []
  | c :: rest =>
    if isBlank c then scan? rest
    else
      match _h : scanToken? (c :: rest) with
      | none => none
      | some (t, after) => (scan? after).map (t :: ·)
termination_by cs.length
decreasing_by
  · simp
  · exact scanToken?_length _h

end Telemetry.Json
