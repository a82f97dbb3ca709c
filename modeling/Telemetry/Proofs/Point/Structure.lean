import Mathlib.Data.Bool.Count
import Telemetry.Proofs.Point.Line

/-!
# What tag values can do to a line

Tag values come from a caller, and any text may stand there.  Two things in a value reach beyond it:
a line feed, which the writer leaves as it is and which ends the line there, and a backslash at the
end, which escapes the separator written behind the value.

* `Point.revalue`      a row with other tag values;
* `OneLine`            a text with one line feed, at its end;
* `SameStructure`      two rows whose lines are one line each and have as many separators of each kind;
* `Point.Unbroken`     a row without line feeds in its texts;
* `Point.trailing`     for every tag whether its value ends in a backslash;
* `sameStructure_revalue_iff`  these two decide whether new values keep the structure of a row.
-/

namespace Telemetry

open Telemetry.Text Telemetry.LineProtocol

namespace Point

def revalue (p : Point) (value : Nat → String) : Point :=
  { p with tags := p.tags.mapIdx fun i t => { t with value := value i } }

structure Unbroken (p : Point) : Prop where
  measurement : '\n' ∉ p.measurement.toList
  tags : ∀ t ∈ p.tags, '\n' ∉ t.key.toList ∧ '\n' ∉ t.value.toList
  fields : ∀ f ∈ p.fields, '\n' ∉ f.key.toList

def trailing (p : Point) : List Bool := p.tags.map fun t => trails false t.value.toList

end Point

def OneLine (s : String) : Prop := ∃ cs, s.toList = cs ++ ['\n'] ∧ '\n' ∉ cs

/-- lines that are one line each, with as many commas, equals signs and spaces that are not escaped -/
def SameStructure (p q : Point) : Prop :=
  (OneLine p.lineText ∧ OneLine q.lineText) ∧
    ∀ c ∈ [',', '=', ' '],
      countFree c false p.lineText.toList = countFree c false q.lineText.toList

/-! ## line feeds -/

section
variable {p : Point}

theorem toList_lineText (p : Point) : p.lineText.toList = p.lineChars ++ ['\n'] :=
  String.toList_ofList

theorem oneLine_lineText : OneLine p.lineText ↔ '\n' ∉ p.lineChars := by
  rw [OneLine, toList_lineText]
  constructor
  · rintro ⟨cs, h, hcs⟩
    rwa [List.append_cancel_right h]
  · exact fun h => ⟨_, rfl, h⟩

theorem lineFeed_mem_pair {key value : List Char} :
    '\n' ∈ key ++ '=' :: value ↔ '\n' ∈ key ∨ '\n' ∈ value := by
  rw [List.mem_append, List.mem_cons, or_iff_right (by decide : ¬ '\n' = '=')]

theorem lineFeed_mem_head : '\n' ∈ p.head ↔ '\n' ∈ p.measurement.toList ∨
    ∃ t ∈ p.tags, '\n' ∈ t.key.toList ∨ '\n' ∈ t.value.toList := by
  rw [Point.head, List.mem_append, mem_escape _ (by decide), List.mem_flatMap]
  refine or_congr_right (exists_congr fun t => and_congr_right fun _ => ?_)
  rw [List.mem_cons, or_iff_right (by decide), Tag.pair, lineFeed_mem_pair,
    mem_escape _ (by decide), mem_escape _ (by decide)]

theorem lineFeed_mem_field {f : Field} : '\n' ∈ f.pair ↔ '\n' ∈ f.key.toList := by
  have hvalue : '\n' ∉ f.value.token := fun h => mem_token h (by decide)
  rw [Field.pair, lineFeed_mem_pair, mem_escape _ (by decide), or_iff_left hvalue]

theorem lineFeed_mem_fieldSection :
    '\n' ∈ p.fieldSection ↔ ∃ f ∈ p.fields, '\n' ∈ f.key.toList := by
  rw [Point.fieldSection]
  cases p.fields with
  | nil => simp
  | cons f rest =>
    show '\n' ∈ ' ' :: (f.pair ++ rest.flatMap fun g => ',' :: g.pair) ↔ _
    rw [List.mem_cons, or_iff_right (by decide), List.mem_append, List.mem_flatMap,
      List.exists_mem_cons_iff, lineFeed_mem_field]
    refine or_congr_right (exists_congr fun g => and_congr_right fun _ => ?_)
    rw [List.mem_cons, or_iff_right (by decide), lineFeed_mem_field]

theorem lineFeed_notMem_signed (i : Int) : '\n' ∉ Decimal.signed i := by
  intro h
  exact not_numberChar '\n' (by decide) ((Decimal.mem_signed h).imp_right .inr)

/-- a row is one line if none of its texts has a line feed -/
theorem oneLine_iff : OneLine p.lineText ↔ p.Unbroken := by
  have htime : '\n' ∉ ' ' :: Decimal.signed p.timestamp.toInt :=
    List.not_mem_cons_of_ne_of_not_mem (by decide) (lineFeed_notMem_signed _)
  rw [oneLine_lineText, Point.lineChars, List.mem_append, or_iff_left htime, List.mem_append,
    lineFeed_mem_head, lineFeed_mem_fieldSection]
  constructor
  · intro h
    push Not at h
    exact ⟨h.1.1, fun t ht => h.1.2 t ht, h.2⟩
  · rintro ⟨hm, ht, hf⟩
    push Not
    exact ⟨⟨hm, fun t => ht t⟩, hf⟩

end

/-! ## separators -/

section
variable {c : Char}

theorem trails_pair (t : Tag) : trails false t.pair = trails false t.value.toList := by
  rw [Tag.pair, trails_append, trails_cons, trails_escape]
  rfl

/-- only the key of a pair and the equals sign behind it have free separators -/
theorem countFree_pair (hc : c ∈ keyEnds) (hslash : c ≠ '\\') (t : Tag) :
    countFree c false t.pair = countFree c false (escape keyEnds t.key.toList ++ ['=']) := by
  rw [Tag.pair, List.append_cons, countFree_append, countFree_escape hc hslash, Nat.add_zero]

theorem countFree_key (hc : c = ',' ∨ c = ' ') (key : String) :
    countFree c false (escape keyEnds key.toList ++ ['=']) = 0 := by
  have hkey : countFree c false (escape keyEnds key.toList) = 0 := by
    rcases hc with rfl | rfl <;> exact countFree_escape (by decide) (by decide) _ _
  have hequals : '=' ≠ c := by rcases hc with rfl | rfl <;> decide
  rw [countFree_append, hkey, countFree_cons, if_neg fun h => hequals h.1]
  rfl

/-- a tag in a line: the comma in front of it, and its key -/
theorem countFree_tag (hc : c ∈ keyEnds) (hslash : c ≠ '\\') (e : Bool) (t : Tag)
    (rest : List Char) :
    countFree c e (',' :: t.pair ++ rest)
      = (if ',' = c ∧ e = false then 1 else 0)
        + countFree c false (escape keyEnds t.key.toList ++ ['='])
        + countFree c (trails false t.value.toList) rest := by
  rw [List.cons_append, countFree_cons, countFree_append, ← Nat.add_assoc]
  show _ + countFree c false t.pair + countFree c (trails false t.pair) rest = _
  rw [countFree_pair hc hslash, trails_pair]

theorem trails_tags (e : Bool) (tags : List Tag) :
    trails e (tags.flatMap fun t => ',' :: t.pair)
      = (tags.map fun t => trails false t.value.toList).getLast?.getD e := by
  induction tags generalizing e with
  | nil => rfl
  | cons t tags ih =>
    rw [List.flatMap_cons, List.cons_append, trails_cons, trails_append]
    show trails (trails false t.pair) _ = _
    rw [ih, trails_pair, List.map_cons, List.getLast?_cons, Option.getD_some]

/-- the separators other than commas do not depend on the values -/
theorem countFree_tags (hc : c ∈ keyEnds) (hslash : c ≠ '\\') (hcomma : ',' ≠ c) (e : Bool)
    (tags : List Tag) :
    countFree c e (tags.flatMap fun t => ',' :: t.pair)
      = ((tags.map (·.key)).map fun key =>
          countFree c false (escape keyEnds key.toList ++ ['='])).sum := by
  induction tags generalizing e with
  | nil => rfl
  | cons t tags ih =>
    rw [List.flatMap_cons, countFree_tag hc hslash, if_neg fun h => hcomma h.1, ih, List.map_cons,
      List.map_cons, List.sum_cons, Nat.zero_add]

/-- the comma in front of a tag counts unless the text before it ends in a backslash -/
theorem countFree_comma_tags (e : Bool) (tags : List Tag) :
    countFree ',' e (tags.flatMap fun t => ',' :: t.pair)
      = (e :: tags.map fun t => trails false t.value.toList).dropLast.count false := by
  induction tags generalizing e with
  | nil => rfl
  | cons t tags ih =>
    rw [List.flatMap_cons, countFree_tag (by decide) (by decide), countFree_key (.inl rfl), ih,
      List.map_cons, List.dropLast_cons_cons, List.count_cons]
    cases e <;> simp [Nat.add_comm]

end

namespace Point

def afterTags (p : Point) : List Char :=
  p.fieldSection ++ ' ' :: Decimal.signed p.timestamp.toInt ++ ['\n']

theorem afterTags_eq (p : Point) : ∃ rest, p.afterTags = ' ' :: rest := by
  rw [afterTags, fieldSection]
  cases p.fields with
  | nil => exact ⟨_, rfl⟩
  | cons f rest => exact ⟨_, rfl⟩

theorem lineText_sections (p : Point) :
    p.lineText.toList = escape nameEnds p.measurement.toList
      ++ ((p.tags.flatMap fun t => ',' :: t.pair) ++ p.afterTags) := by
  rw [toList_lineText, lineChars, head, afterTags]
  simp only [List.append_assoc, List.cons_append]

end Point

/-- the space behind the tags keeps the other separators as they are -/
theorem countFree_afterTags (p : Point) {c : Char} (hc : ' ' ≠ c) (e : Bool) :
    countFree c e p.afterTags = countFree c false p.afterTags := by
  obtain ⟨rest, hrest⟩ := p.afterTags_eq
  rw [hrest, countFree_cons, countFree_cons, if_neg fun h => hc h.1, if_neg fun h => hc h.1]

/-- that space counts unless the text before it ends in a backslash -/
theorem countFree_space_afterTags (p : Point) (e : Bool) :
    countFree ' ' e p.afterTags = (!e).toNat + countFree ' ' true p.afterTags := by
  obtain ⟨rest, hrest⟩ := p.afterTags_eq
  rw [hrest, countFree_cons, countFree_cons]
  cases e <;> simp

/-- the separators of a line: of the measurement, of the tags, and of what follows them; these
last ones see only how the text before them ends -/
theorem countFree_lineText (p : Point) (c : Char) :
    countFree c false p.lineText.toList
      = countFree c false (escape nameEnds p.measurement.toList)
        + countFree c (trails false p.measurement.toList) (p.tags.flatMap fun t => ',' :: t.pair)
        + countFree c (p.trailing.getLast?.getD (trails false p.measurement.toList)) p.afterTags := by
  rw [p.lineText_sections, countFree_append, countFree_append, trails_escape, trails_tags,
    Nat.add_assoc]
  rfl

/-! ## two rows -/

section
variable {l l' : List Bool}

theorem count_dropLast_cons (h : l.length = l'.length) (e : Bool) :
    (e :: l).dropLast.count false = (e :: l').dropLast.count false
      ↔ l.dropLast.count true = l'.dropLast.count true := by
  have hdrop : l.dropLast.length = l'.dropLast.length := by
    rw [List.length_dropLast, List.length_dropLast, h]
  have hl := List.count_true_add_count_false l.dropLast
  have hl' := List.count_true_add_count_false l'.dropLast
  cases l with
  | nil => rw [List.eq_nil_of_length_eq_zero h.symm]; simp
  | cons a l =>
    cases l' with
    | nil => cases h
    | cons b l' =>
      rw [List.dropLast_cons_cons, List.dropLast_cons_cons, List.count_cons, List.count_cons]
      omega

theorem getLast?_getD (h : l.length = l'.length) (e : Bool) :
    l.getLast?.getD e = l'.getLast?.getD e ↔ l.getLast? = l'.getLast? := by
  cases l with
  | nil => rw [List.eq_nil_of_length_eq_zero h.symm]; simp
  | cons a l =>
    cases l' with
    | nil => cases h
    | cons b l' => rw [List.getLast?_cons, List.getLast?_cons, Option.getD_some, Option.getD_some,
        Option.some.injEq]

end

section
variable (p : Point) (value : Nat → String)

theorem keys_revalue : (p.revalue value).tags.map (·.key) = p.tags.map (·.key) := by
  apply List.ext_getElem <;> simp [Point.revalue]

theorem afterTags_revalue : (p.revalue value).afterTags = p.afterTags := rfl

theorem length_trailing_revalue : p.trailing.length = (p.revalue value).trailing.length := by
  simp [Point.trailing, Point.revalue]

theorem commas_revalue :
    countFree ',' false p.lineText.toList = countFree ',' false (p.revalue value).lineText.toList
      ↔ p.trailing.dropLast.count true = (p.revalue value).trailing.dropLast.count true := by
  rw [countFree_lineText, countFree_lineText, countFree_afterTags _ (by decide),
    countFree_afterTags (p.revalue value) (by decide), afterTags_revalue, Nat.add_right_cancel_iff,
    countFree_comma_tags, countFree_comma_tags,
    ← count_dropLast_cons (length_trailing_revalue p value) (trails false p.measurement.toList)]
  exact Nat.add_left_cancel_iff

theorem equals_revalue :
    countFree '=' false p.lineText.toList
      = countFree '=' false (p.revalue value).lineText.toList := by
  rw [countFree_lineText, countFree_lineText, countFree_afterTags _ (by decide),
    countFree_afterTags (p.revalue value) (by decide), afterTags_revalue,
    countFree_tags (by decide) (by decide) (by decide),
    countFree_tags (by decide) (by decide) (by decide), keys_revalue]
  rfl

theorem spaces_revalue :
    countFree ' ' false p.lineText.toList = countFree ' ' false (p.revalue value).lineText.toList
      ↔ p.trailing.getLast? = (p.revalue value).trailing.getLast? := by
  have hbits : ∀ a b : Bool, (!a).toNat = (!b).toNat ↔ a = b := by decide
  rw [countFree_lineText, countFree_lineText, countFree_space_afterTags,
    countFree_space_afterTags (p.revalue value), afterTags_revalue,
    countFree_tags (by decide) (by decide) (by decide),
    countFree_tags (by decide) (by decide) (by decide), keys_revalue,
    ← getLast?_getD (length_trailing_revalue p value) (trails false p.measurement.toList),
    ← hbits, ← Nat.add_assoc, ← Nat.add_assoc, Nat.add_right_cancel_iff]
  exact Nat.add_left_cancel_iff

end

/-- **New tag values keep the structure of a row** if there is no line feed in the row, neither
before nor after, if as many of the values in front of the last one end in a backslash as before,
and if the last one does when it did before; and they do not in any other case. -/
theorem sameStructure_revalue_iff (p : Point) (value : Nat → String) :
    SameStructure p (p.revalue value) ↔
      (p.Unbroken ∧ (p.revalue value).Unbroken)
        ∧ p.trailing.dropLast.count true = (p.revalue value).trailing.dropLast.count true
        ∧ p.trailing.getLast? = (p.revalue value).trailing.getLast? := by
  rw [SameStructure, oneLine_iff, oneLine_iff, List.forall_mem_cons, List.forall_mem_cons,
    List.forall_mem_singleton, commas_revalue, spaces_revalue]
  exact and_congr_right fun _ => and_congr_right fun _ => and_iff_right (equals_revalue p value)

/-- a row of one tag -/
def oneTag : Point where
  measurement := "cpu"
  timestamp := 5
  tags := [⟨"host", "web"⟩]
  fields := [⟨"usage", .unsigned 1⟩]

/-- a line feed in a value breaks the line, and a backslash at its end takes the space away that
separates the fields from the tags -/
theorem not_sameStructure_oneTag :
    (oneTag.revalue fun _ => "a\nb").lineText = "cpu,host=a\nb usage=1u 5\n"
      ∧ ¬ SameStructure oneTag (oneTag.revalue fun _ => "a\nb")
      ∧ (oneTag.revalue fun _ => "C:\\").lineText = "cpu,host=C:\\ usage=1u 5\n"
      ∧ ¬ SameStructure oneTag (oneTag.revalue fun _ => "C:\\") := by
  refine ⟨by decide, fun h => ?_, by decide, fun h => ?_⟩
  · have hvalue := ((oneLine_iff.1 h.1.2).tags ⟨"host", "a\nb"⟩ (by decide)).2
    exact hvalue (by decide)
  · exact absurd ((spaces_revalue _ _).1 (h.2 ' ' (by decide))) (by decide)

end Telemetry
