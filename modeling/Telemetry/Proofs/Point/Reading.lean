import Telemetry.Proofs.Point.Line
import Telemetry.Word

/-!
# Lines read back

A reader of lines that knows separators and backslashes and nothing about the writer.  It takes the
line feed off, cuts the line at its free spaces into a head, the fields if there are any, and the
time; the head and the fields at their free commas; and each tag and field at its first free equals
sign.  Then the backslashes in front of commas, spaces and equals signs are taken away.

* `Reading`         a row as a line shows it: of a float only the text is known;
* `Reading.ofText?` the reader;
* `Point.reading`   what a line of a point ought to say;
* `Point.Unslashed` a point without backslashes in its names and tag values;
* `ofText?_lineText`  the line of such a point says just that.
-/

namespace Telemetry

open Telemetry.Text Telemetry.LineProtocol

/-! ## the reader -/

/-- a value as a line shows it -/
inductive Shown where
  | float (text : String)
  | integer (i : Int64)
  | unsigned (u : UInt64)
  | boolean (b : Bool)
deriving DecidableEq, Repr

structure Reading where
  measurement : String
  timestamp : Int64
  tags : List Tag
  fields : List (String × Shown)
deriving DecidableEq, Repr

namespace Reading

/-- a text without the backslashes in front of commas, spaces and equals signs -/
def unescape : List Char → List Char
  | '\\' :: c :: rest =>
    if keyEnds.contains c then c :: unescape rest else '\\' :: unescape (c :: rest)
  | c :: rest => c :: unescape rest
  | [] => []

def name (cs : List Char) : String := String.ofList (unescape cs)

def signed? (cs : List Char) : Option Int64 := (Decimal.readInteger? cs).bind Word.signed?

def unsigned? (cs : List Char) : Option UInt64 :=
  (Decimal.readNatural? cs).bind fun n => if n < UInt64.size then some n.toUInt64 else none

/-- a value: a boolean, an integer by its last letter, and otherwise a float -/
def value? (cs : List Char) : Option Shown :=
  if cs = ['t', 'r', 'u', 'e'] then some (.boolean true)
  else if cs = ['f', 'a', 'l', 's', 'e'] then some (.boolean false)
  else
    match cs.getLast? with
    | some 'i' => (signed? cs.dropLast).map .integer
    | some 'u' => (unsigned? cs.dropLast).map .unsigned
    | _ => some (.float (String.ofList cs))

def tag? (cs : List Char) : Option Tag :=
  (cutFree? '=' false cs).map fun (key, value) => ⟨name key, name value⟩

def field? (cs : List Char) : Option (String × Shown) :=
  (cutFree? '=' false cs).bind fun (key, value) => (value? value).map fun v => (name key, v)

def head? (cs : List Char) : Option (String × List Tag) :=
  match splitFree ',' false cs with
  | [] => none
  | measurement :: tags => (tags.mapM tag?).map fun tags => (name measurement, tags)

/-- a row from its head, its fields and its time -/
def assemble? (head : List Char) (fields : List (List Char)) (time : List Char) :
    Option Reading := do
  let (measurement, tags) ← head? head
  let fields ← fields.mapM field?
  let timestamp ← signed? time
  return ⟨measurement, timestamp, tags, fields⟩

def ofChars? (cs : List Char) : Option Reading :=
  match splitFree ' ' false cs with
  | [head, time] => assemble? head [] time
  | [head, fields, time] => assemble? head (splitFree ',' false fields) time
  | _ => none

def ofText? (text : String) : Option Reading :=
  if text.toList.getLast? = some '\n' then ofChars? text.toList.dropLast else none

end Reading

/-! ## what a line says -/

def FieldValue.shown : FieldValue → Shown
  | .float x => .float (String.ofList (floatText x))
  | .integer i => .integer i
  | .unsigned u => .unsigned u
  | .boolean b => .boolean b

def Point.reading (p : Point) : Reading where
  measurement := p.measurement
  timestamp := p.timestamp
  tags := p.tags
  fields := p.fields.map fun f => (f.key, f.value.shown)

structure Point.Unslashed (p : Point) : Prop where
  measurement : '\\' ∉ p.measurement.toList
  tags : ∀ t ∈ p.tags, '\\' ∉ t.key.toList ∧ '\\' ∉ t.value.toList
  fields : ∀ f ∈ p.fields, '\\' ∉ f.key.toList

namespace Reading

/-! ## names and values -/

theorem unescape_escape {special : List Char} (hspecial : ∀ c ∈ special, c ∈ keyEnds)
    {cs : List Char} (h : '\\' ∉ cs) : unescape (escape special cs) = cs := by
  induction cs with
  | nil => rfl
  | cons a cs ih =>
    have ha : a ≠ '\\' := fun e => h (e ▸ List.mem_cons_self)
    have ih := ih fun hmem => h (List.mem_cons_of_mem a hmem)
    rw [escape_cons]
    split
    · rename_i hmem
      have hend : keyEnds.contains a = true :=
        List.contains_iff_mem.2 (hspecial a (List.contains_iff_mem.1 hmem))
      rw [List.cons_append, List.singleton_append, unescape, if_pos hend, ih]
    · rw [List.singleton_append, unescape, ih]
      intro c rest hslash
      exact absurd hslash ha

theorem name_escape {special : List Char} (hspecial : ∀ c ∈ special, c ∈ keyEnds) {s : String}
    (h : '\\' ∉ s.toList) : name (escape special s.toList) = s := by
  rw [name, unescape_escape hspecial h, String.ofList_toList]

theorem signed?_signed (i : Int64) : signed? (Decimal.signed i.toInt) = some i := by
  rw [signed?, Decimal.readInteger?_signed, Option.bind_some]
  exact Word.signed?_eq_some.2 rfl

theorem unsigned?_digits (u : UInt64) : unsigned? (Decimal.digits u.toNat) = some u := by
  rw [unsigned?, Decimal.readNatural?_digits, Option.bind_some, if_pos u.toNat_lt_size]
  exact congrArg some (UInt64.ofNat_toNat)

/-- what ends in another letter is no boolean -/
theorem value?_concat {c : Char} (hc : c ≠ 'e') (cs : List Char) :
    value? (cs ++ [c]) = match some c with
      | some 'i' => (signed? cs).map .integer
      | some 'u' => (unsigned? cs).map .unsigned
      | _ => some (.float (String.ofList (cs ++ [c]))) := by
  have hne : ∀ w : List Char, w.getLast? = some 'e' → cs ++ [c] ≠ w := by
    rintro w hw rfl
    rw [List.getLast?_concat, Option.some.injEq] at hw
    exact hc hw
  rw [value?, if_neg (hne _ rfl), if_neg (hne _ rfl), List.getLast?_concat, List.dropLast_concat]

theorem value?_token (v : FieldValue) : value? v.token = some v.shown := by
  cases v with
  | float x =>
    obtain ⟨-, -, hlast, hboolean⟩ := floatText_readable x
    show value? (floatText x) = _
    rw [value?, if_neg hboolean.1, if_neg hboolean.2]
    split
    · rename_i h
      exact absurd h hlast.1
    · rename_i h
      exact absurd h hlast.2
    · rfl
  | integer i =>
    show value? (Decimal.signed i.toInt ++ ['i']) = _
    rw [value?_concat (by decide)]
    show (signed? (Decimal.signed i.toInt)).map Shown.integer = _
    rw [signed?_signed]
    rfl
  | unsigned u =>
    show value? (Decimal.digits u.toNat ++ ['u']) = _
    rw [value?_concat (by decide)]
    show (unsigned? (Decimal.digits u.toNat)).map Shown.unsigned = _
    rw [unsigned?_digits]
    rfl
  | boolean b => cases b <;> rfl

theorem part_token {c : Char} (hc : c ∈ structural) (v : FieldValue) : Part c v.token :=
  Part.of_not_mem (fun h => mem_token h hc) (fun h => mem_token h (by decide))

/-- a name without backslashes is a part between the separators that are escaped in it -/
theorem part_name {special : List Char} {c : Char} (hmem : c ∈ special) (hc : c ≠ '\\') {s : String}
    (h : '\\' ∉ s.toList) : Part c (escape special s.toList) :=
  part_escape hmem hc (trails_of_not_mem h)

/-! ## tags and fields -/

/-- the separators between tags, between fields, and between the sections of a line -/
theorem part_pair {c : Char} (hc : c = ',' ∨ c = ' ') {key value : List Char}
    (hkey : Part c key) (hvalue : Part c value) : Part c (key ++ '=' :: value) := by
  have hne : '=' ≠ c := by rcases hc with rfl | rfl <;> decide
  exact hkey.append (hvalue.cons hne (by decide))

section
variable {c : Char} {t : Tag} {f : Field}

theorem part_tag (hc : c = ',' ∨ c = ' ') (hkey : '\\' ∉ t.key.toList)
    (hvalue : '\\' ∉ t.value.toList) : Part c t.pair := by
  have hmem : c ∈ keyEnds ∧ c ≠ '\\' := by rcases hc with rfl | rfl <;> decide
  exact part_pair hc (part_name hmem.1 hmem.2 hkey) (part_name hmem.1 hmem.2 hvalue)

theorem part_field (hc : c = ',' ∨ c = ' ') (hkey : '\\' ∉ f.key.toList) : Part c f.pair := by
  have hmem : c ∈ keyEnds ∧ c ≠ '\\' ∧ c ∈ structural := by rcases hc with rfl | rfl <;> decide
  exact part_pair hc (part_name hmem.1 hmem.2.1 hkey) (part_token hmem.2.2 f.value)

theorem tag?_pair (hkey : '\\' ∉ t.key.toList) (hvalue : '\\' ∉ t.value.toList) :
    tag? t.pair = some t := by
  rw [tag?, Tag.pair, cutFree?_append (part_name (by decide) (by decide) hkey), Option.map_some]
  show some (⟨name (escape keyEnds t.key.toList), name (escape keyEnds t.value.toList)⟩ : Tag) = _
  rw [name_escape (fun _ => id) hkey, name_escape (fun _ => id) hvalue]

theorem field?_pair (hkey : '\\' ∉ f.key.toList) :
    field? f.pair = some (f.key, f.value.shown) := by
  rw [field?, Field.pair, cutFree?_append (part_name (by decide) (by decide) hkey),
    Option.bind_some]
  show (value? f.value.token).map (fun v => (name (escape keyEnds f.key.toList), v)) = _
  rw [value?_token, Option.map_some, name_escape (fun _ => id) hkey]

end

theorem mapM_map {α β γ : Type} {read : β → Option γ} {write : α → β} {value : α → γ}
    {xs : List α} (h : ∀ x ∈ xs, read (write x) = some (value x)) :
    (xs.map write).mapM read = some (xs.map value) := by
  induction xs with
  | nil => rfl
  | cons x xs ih =>
    obtain ⟨hx, hxs⟩ := List.forall_mem_cons.1 h
    rw [List.map_cons, List.mapM_cons, hx, ih hxs]
    rfl

/-! ## lines -/

section
variable {p : Point}

theorem head?_head (h : p.Unslashed) : head? p.head = some (p.measurement, p.tags) := by
  have hparts : splitFree ',' false p.head
      = escape nameEnds p.measurement.toList :: p.tags.map Tag.pair := by
    rw [Point.head, ← List.flatMap_map Tag.pair (',' :: ·)]
    refine splitFree_join (by decide) (part_name (by decide) (by decide) h.measurement) ?_
    intro part hpart
    obtain ⟨t, ht, rfl⟩ := List.mem_map.1 hpart
    exact part_tag (.inl rfl) (h.tags t ht).1 (h.tags t ht).2
  have htags : (p.tags.map Tag.pair).mapM tag? = some (p.tags.map id) :=
    mapM_map fun t ht => tag?_pair (h.tags t ht).1 (h.tags t ht).2
  rw [head?, hparts]
  show ((p.tags.map Tag.pair).mapM tag?).map _ = _
  rw [htags, Option.map_some, List.map_id, name_escape mem_keyEnds_of_mem_nameEnds h.measurement]

theorem part_head (h : p.Unslashed) : Part ' ' p.head := by
  refine (part_name (by decide) (by decide) h.measurement).append (Part.flatMap ?_)
  intro t ht
  exact (part_tag (.inr rfl) (h.tags t ht).1 (h.tags t ht).2).cons (by decide) (by decide)

theorem part_time (c : Char) (hc : c ∈ structural) (i : Int) : Part c (Decimal.signed i) := by
  have hplain : ∀ d ∈ structural, d ∉ Decimal.signed i := by
    intro d hd hmem
    exact not_numberChar d (List.mem_append_right _ hd) ((Decimal.mem_signed hmem).imp_right .inr)
  exact Part.of_not_mem (hplain c hc) (hplain '\\' (by decide))

theorem assemble?_pieces (h : p.Unslashed) :
    assemble? p.head (p.fields.map Field.pair) (Decimal.signed p.timestamp.toInt)
      = some p.reading := by
  have hfields : (p.fields.map Field.pair).mapM field?
      = some (p.fields.map fun f => (f.key, f.value.shown)) :=
    mapM_map fun f hf => field?_pair (h.fields f hf)
  unfold assemble?
  rw [head?_head h, hfields, signed?_signed]
  rfl

theorem ofChars?_lineChars (h : p.Unslashed) : ofChars? p.lineChars = some p.reading := by
  have hassemble := assemble?_pieces h
  have htime := part_time ' ' (by decide) p.timestamp.toInt
  -- without fields there are two sections
  cases hfields : p.fields with
  | nil =>
    have hline : p.lineChars = p.head ++ [Decimal.signed p.timestamp.toInt].flatMap (' ' :: ·) := by
      rw [Point.lineChars, Point.fieldSection, hfields]
      simp
    rw [ofChars?, hline, splitFree_join (by decide) (part_head h) (List.forall_mem_singleton.2 htime)]
    rw [hfields] at hassemble
    exact hassemble
  | cons f fields =>
    have hplain := h.fields
    rw [hfields] at hplain hassemble
    obtain ⟨hf, hrest⟩ := List.forall_mem_cons.1 hplain
    have hcommas : splitFree ',' false (f.pair ++ fields.flatMap fun g => ',' :: g.pair)
        = f.pair :: fields.map Field.pair := by
      rw [← List.flatMap_map Field.pair (',' :: ·)]
      refine splitFree_join (by decide) (part_field (.inl rfl) hf) ?_
      intro part hpart
      obtain ⟨g, hg, rfl⟩ := List.mem_map.1 hpart
      exact part_field (.inl rfl) (hrest g hg)
    have hsection : Part ' ' (f.pair ++ fields.flatMap fun g => ',' :: g.pair) := by
      refine (part_field (.inr rfl) hf).append (Part.flatMap ?_)
      intro g hg
      exact (part_field (.inr rfl) (hrest g hg)).cons (by decide) (by decide)
    have hline : p.lineChars = p.head ++
        [f.pair ++ fields.flatMap fun g => ',' :: g.pair, Decimal.signed p.timestamp.toInt].flatMap
          (' ' :: ·) := by
      rw [Point.lineChars, Point.fieldSection, hfields]
      simp
    rw [ofChars?, hline, splitFree_join (by decide) (part_head h)
      (List.forall_mem_cons.2 ⟨hsection, List.forall_mem_singleton.2 htime⟩)]
    show assemble? p.head (splitFree ',' false _) _ = _
    rw [hcommas]
    exact hassemble

end

/-- **A line says what the point holds**: the measurement, every tag and every field in order, and
the time, whatever commas, spaces and equals signs the names and tag values have. -/
theorem ofText?_lineText {p : Point} (h : p.Unslashed) : ofText? p.lineText = some p.reading := by
  have hchars : p.lineText.toList = p.lineChars ++ ['\n'] := String.toList_ofList
  rw [ofText?, hchars, List.getLast?_concat, if_pos rfl, List.dropLast_concat,
    ofChars?_lineChars h]

/-- a row with separators in all its names, an empty tag and values of all four types -/
def crowded : Point where
  measurement := "cpu, =load"
  timestamp := -9223372036854775808
  tags := [⟨"host name", "a,b=c d"⟩, ⟨"", ""⟩, ⟨"=", "x\ny,"⟩]
  fields := [⟨"user, usage", .float 64.5⟩, ⟨"=i", .integer (-3)⟩, ⟨"", .unsigned 18446744073709551615⟩,
    ⟨"up time", .boolean true⟩]

theorem unslashed_crowded : crowded.Unslashed where
  measurement := by decide
  tags := by decide
  fields := by decide

/-- with all its fields and with none -/
theorem ofText?_lineText_crowded :
    ofText? crowded.lineText = some crowded.reading
      ∧ ofText? ({ crowded with fields := [] } : Point).lineText
        = some { crowded.reading with fields := [] } :=
  ⟨ofText?_lineText unslashed_crowded,
    ofText?_lineText (p := { crowded with fields := [] })
      ⟨unslashed_crowded.measurement, unslashed_crowded.tags, List.forall_mem_nil _⟩⟩

end Reading

end Telemetry
