import Mathlib.Tactic.Push
import Telemetry.Proofs.Text.Pair
import Telemetry.Template.Basic

/-!
# The grammar of templates

What a text has to look like to be a template, said without the reader.  A template is a list of
pieces, each some text and a placeholder in double braces, and a last text.

* `NameText`, `CountText`  a name of letters, digits and underscores, and a count that is written
                           after it;
* `BodyText`               a placeholder's text as a name and perhaps a count;
* `Placed`                 what a good placeholder stands for, given the tag keys;
* `BodyFault`              what is wrong with a bad one;
* `Piece`, `spelled`, `parts`  the pieces of a template, their text, and their segments;
* `FirstFault`             the first bad placeholder of a text and what is wrong with it.

`readPlaceholder_ok_iff` and `readPlaceholder_error_iff` say that the reader of one placeholder
accepts the good texts, and names the fault of the others.
-/

namespace Telemetry.Template

/-! ## names and counts -/

/-- a letter, a digit or an underscore -/
def NameChar (c : Char) : Prop :=
  ('A' ≤ c ∧ c ≤ 'Z') ∨ ('a' ≤ c ∧ c ≤ 'z') ∨ ('0' ≤ c ∧ c ≤ '9') ∨ c = '_'

/-- one or more letters, digits and underscores -/
def NameText (cs : List Char) : Prop := cs ≠ [] ∧ ∀ c ∈ cs, NameChar c

/-- decimal digits, possibly after a plus sign, for a number from 1 to `2 ^ 32 - 1` -/
def CountText (cs : List Char) (n : Nat) : Prop :=
  ∃ digits, (cs = digits ∨ cs = '+' :: digits) ∧ digits ≠ [] ∧
    (∀ d ∈ digits, '0' ≤ d ∧ d ≤ '9') ∧ Decimal.value digits = n ∧ 1 ≤ n ∧ n ≤ 4294967295

theorem isNameChar_iff {c : Char} : isNameChar c = true ↔ NameChar c := by
  unfold isNameChar NameChar Char.isAlphanum Char.isAlpha Char.isUpper Char.isLower Char.isDigit
  simp only [Bool.or_eq_true, decide_eq_true_eq, Bool.and_eq_true, beq_iff_eq, or_assoc]
  exact Iff.rfl

theorem isName_iff {cs : List Char} : isName cs = true ↔ NameText cs := by
  unfold isName NameText
  rw [Bool.and_eq_true, Bool.not_eq_true', List.isEmpty_eq_false_iff, List.all_eq_true]
  simp only [isNameChar_iff]

theorem readDigits?_eq_some {ds : List Char} {n : Nat} :
    Decimal.readDigits? ds = some n ↔
      ds ≠ [] ∧ (∀ d ∈ ds, '0' ≤ d ∧ d ≤ '9') ∧ Decimal.value ds = n := by
  have hdigit : (!ds.isEmpty && ds.all Char.isDigit) = true ↔
      ds ≠ [] ∧ ∀ d ∈ ds, '0' ≤ d ∧ d ≤ '9' := by
    rw [Bool.and_eq_true, Bool.not_eq_true', List.isEmpty_eq_false_iff, List.all_eq_true]
    simp only [Char.isDigit, Bool.and_eq_true, decide_eq_true_eq]
    exact Iff.rfl
  unfold Decimal.readDigits?
  by_cases h : (!ds.isEmpty && ds.all Char.isDigit) = true
  · rw [if_pos h, Option.some.injEq]
    exact ⟨fun e => ⟨(hdigit.1 h).1, (hdigit.1 h).2, e⟩, fun e => e.2.2⟩
  · rw [if_neg h]
    exact ⟨fun e => absurd e.symm (Option.some_ne_none n), fun e => absurd (hdigit.2 ⟨e.1, e.2.1⟩) h⟩

theorem readNatural?_eq_some {cs : List Char} {n : Nat} :
    Decimal.readNatural? cs = some n ↔
      ∃ digits, (cs = digits ∨ cs = '+' :: digits) ∧ Decimal.readDigits? digits = some n := by
  have hplus : ∀ ds : List Char, Decimal.readDigits? ('+' :: ds) ≠ some n := by
    intro ds h
    have hd := (readDigits?_eq_some.1 h).2.1 '+' List.mem_cons_self
    exact absurd hd.1 (by decide)
  constructor
  · intro h
    unfold Decimal.readNatural? at h
    split at h
    · rename_i ds
      exact ⟨ds, .inr rfl, h⟩
    · exact ⟨cs, .inl rfl, h⟩
  · rintro ⟨digits, rfl | rfl, h⟩
    · unfold Decimal.readNatural?
      split
      · rename_i ds
        exact absurd h (hplus ds)
      · exact h
    · exact h

theorem count?_eq_some {cs : List Char} {n : Nat} : count? cs = some n ↔ CountText cs n := by
  unfold count? CountText
  rw [Option.filter_eq_some_iff, readNatural?_eq_some]
  simp only [readDigits?_eq_some, Bool.and_eq_true, decide_eq_true_eq]
  constructor
  · rintro ⟨⟨ds, hcs, hne, hd, hv⟩, hpos, hmax⟩
    exact ⟨ds, hcs, hne, hd, hv, hpos, hmax⟩
  · rintro ⟨ds, hcs, hne, hd, hv, hpos, hmax⟩
    exact ⟨⟨ds, hcs, hne, hd, hv⟩, hpos, hmax⟩

/-! ## the text of one placeholder -/

/-- a placeholder's text is a name, and a count after a colon if one is written -/
inductive BodyText : List Char → List Char → Option Nat → Prop where
  | plain {name : List Char} (h : ':' ∉ name) : BodyText name name none
  | counted {name count : List Char} {n : Nat} (h : ':' ∉ name) (hn : CountText count n) :
    BodyText (name ++ ':' :: count) name (some n)

/-- no bound has this name -/
def Free (name : List Char) : Prop := ∀ b : Bound, b.name.toList ≠ name

/-- the place of the first tag key with this name -/
def FirstKey (keys : List String) (name : List Char) (key : Nat) : Prop :=
  keys[key]? = some (String.ofList name) ∧ ∀ i < key, keys[i]? ≠ some (String.ofList name)

/-- what a good placeholder stands for: a bound that is written without a count, or the first tag
with that name, `times` times unless a count is written -/
inductive Placed (keys : List String) (times : Nat) : List Char → Segment → Prop where
  | bound (b : Bound) : Placed keys times b.name.toList (.placeholder (.bound b) 1)
  | tag {body name : List Char} {count : Option Nat} {key : Nat} (hbody : BodyText body name count)
    (hname : NameText name) (hfree : Free name) (hkey : FirstKey keys name key) :
    Placed keys times body (.placeholder (.tag key) (count.getD times))

/-- what is wrong with a bad placeholder: the count, else the name, else a bound is counted, else
no tag has the name -/
inductive BodyFault (source : String) (keys : List String) : List Char → Fault → Prop where
  | count {name count : List Char} (h : ':' ∉ name) (hn : ∀ n, ¬ CountText count n) :
    BodyFault source keys (name ++ ':' :: count)
      (.malformedPlaceholder source (.badCount (String.ofList (name ++ ':' :: count))))
  | name {body name : List Char} {count : Option Nat} (hbody : BodyText body name count)
    (hname : ¬ NameText name) :
    BodyFault source keys body (.malformedPlaceholder source (.badName (String.ofList name)))
  | repeated {body : List Char} {b : Bound} {n : Nat}
    (hbody : BodyText body b.name.toList (some n)) :
    BodyFault source keys body (.malformedPlaceholder source (.repeatedBound b.name))
  | unknown {body name : List Char} {count : Option Nat} (hbody : BodyText body name count)
    (hname : NameText name) (hfree : Free name) (hkey : String.ofList name ∉ keys) :
    BodyFault source keys body (.unknownPlaceholder source (String.ofList name))

theorem nameAndCount_eq_ok {body name : List Char} {count : Option Nat} :
    nameAndCount body = .ok (name, count) ↔ BodyText body name count := by
  unfold nameAndCount
  constructor
  · intro h
    split at h
    · rename_i hcut
      obtain ⟨rfl, rfl⟩ := Prod.mk.inj (Except.ok.inj h)
      exact .plain (Text.cutAt?_eq_none.1 hcut)
    · rename_i hcut
      obtain ⟨rfl, hcolon⟩ := Text.cutAt?_eq_some.1 hcut
      split at h
      · rename_i hcount
        obtain ⟨rfl, rfl⟩ := Prod.mk.inj (Except.ok.inj h)
        exact .counted hcolon (count?_eq_some.1 hcount)
      · exact absurd h (by simp)
  · intro h
    cases h with
    | plain h => rw [Text.cutAt?_eq_none.2 h]
    | counted h hn =>
      rw [Text.cutAt?_append h]
      simp only [count?_eq_some.2 hn]

theorem nameAndCount_eq_error {body : List Char} {m : Malformation} :
    nameAndCount body = .error m ↔ ∃ name count, body = name ++ ':' :: count ∧ ':' ∉ name ∧
      (∀ n, ¬ CountText count n) ∧ m = .badCount (String.ofList body) := by
  unfold nameAndCount
  constructor
  · intro h
    split at h
    · exact absurd h (by simp)
    · rename_i name count hcut
      obtain ⟨hbody, hcolon⟩ := Text.cutAt?_eq_some.1 hcut
      split at h
      · exact absurd h (by simp)
      · rename_i hcount
        refine ⟨name, count, hbody, hcolon, fun n hn => ?_, (Except.error.inj h).symm⟩
        rw [count?_eq_some.2 hn] at hcount
        exact Option.some_ne_none n hcount
  · rintro ⟨name, count, rfl, hcolon, hn, rfl⟩
    rw [Text.cutAt?_append hcolon]
    have hnone : count? count = none := by
      cases hcount : count? count with
      | none => rfl
      | some n => exact absurd (count?_eq_some.1 hcount) (hn n)
    simp only [hnone]

theorem Bound.ofName?_eq_some {s : String} {b : Bound} : Bound.ofName? s = some b ↔ b.name = s := by
  constructor
  · intro h
    have hname := List.find?_some h
    exact beq_iff_eq.1 hname
  · rintro rfl
    cases b <;> decide

theorem Bound.ofName?_eq_none {name : List Char} :
    Bound.ofName? (String.ofList name) = none ↔ Free name := by
  have hlist : ∀ b : Bound, b.name = String.ofList name ↔ b.name.toList = name := by
    intro b
    constructor
    · intro e
      rw [e, String.toList_ofList]
    · rintro rfl
      rw [String.ofList_toList]
  constructor
  · intro h b hb
    rw [Bound.ofName?_eq_some.2 ((hlist b).2 hb)] at h
    exact Option.some_ne_none b h
  · intro h
    cases hb : Bound.ofName? (String.ofList name) with
    | none => rfl
    | some b => exact absurd ((hlist b).1 (Bound.ofName?_eq_some.1 hb)) (h b)

/-- the name of a bound is a name, and has no colon -/
theorem Bound.nameText (b : Bound) : NameText b.name.toList ∧ ':' ∉ b.name.toList := by
  rw [← isName_iff]
  cases b <;> decide

theorem idxOf?_eq_some_iff_firstKey {keys : List String} {name : List Char} {key : Nat} :
    keys.idxOf? (String.ofList name) = some key ↔ FirstKey keys name key := by
  rw [List.idxOf?_eq_some_iff]
  constructor
  · rintro ⟨h, hkey, hbefore⟩
    refine ⟨by rw [List.getElem?_eq_getElem h, hkey], fun i hi e => ?_⟩
    obtain ⟨_, he⟩ := List.getElem?_eq_some_iff.1 e
    exact hbefore i hi he
  · rintro ⟨hkey, hbefore⟩
    obtain ⟨h, he⟩ := List.getElem?_eq_some_iff.1 hkey
    exact ⟨h, he, fun i hi e => hbefore i hi (List.getElem?_eq_some_iff.2 ⟨by omega, e⟩)⟩

/-! ## reading one placeholder -/

section
variable {source : String} {keys : List String} {times : Nat} {body name : List Char}
  {count : Option Nat}

theorem readPlaceholder_badCount {m : Malformation} (h : nameAndCount body = .error m) :
    readPlaceholder source keys times body = .error (.malformedPlaceholder source m) := by
  unfold readPlaceholder
  rw [h]
  rfl

theorem readPlaceholder_badName (h : BodyText body name count) (hname : ¬ NameText name) :
    readPlaceholder source keys times body
      = .error (.malformedPlaceholder source (.badName (String.ofList name))) := by
  have hfalse : isName name = false := by
    rw [← Bool.not_eq_true, isName_iff]
    exact hname
  unfold readPlaceholder
  rw [nameAndCount_eq_ok.2 h]
  show (if !isName name then _ else _) = _
  rw [hfalse]
  rfl

theorem readPlaceholder_bound {b : Bound} (h : BodyText body b.name.toList count) :
    readPlaceholder source keys times body
      = if count.isSome then .error (.malformedPlaceholder source (.repeatedBound b.name))
        else .ok (.placeholder (.bound b) 1) := by
  have htrue : isName b.name.toList = true := isName_iff.2 b.nameText.1
  unfold readPlaceholder
  rw [nameAndCount_eq_ok.2 h]
  show (if !isName b.name.toList then _ else _) = _
  rw [htrue, String.ofList_toList, Bound.ofName?_eq_some.2 rfl]
  rfl

theorem readPlaceholder_free (h : BodyText body name count) (hname : NameText name)
    (hfree : Free name) :
    readPlaceholder source keys times body
      = match keys.idxOf? (String.ofList name) with
        | some key => .ok (.placeholder (.tag key) (count.getD times))
        | none => .error (.unknownPlaceholder source (String.ofList name)) := by
  unfold readPlaceholder
  rw [nameAndCount_eq_ok.2 h]
  show (if !isName name then _ else _) = _
  rw [isName_iff.2 hname, Bound.ofName?_eq_none.2 hfree]
  rfl

theorem readPlaceholder_of_placed {s : Segment} (h : Placed keys times body s) :
    readPlaceholder source keys times body = .ok s := by
  cases h with
  | bound b => rw [readPlaceholder_bound (BodyText.plain b.nameText.2)]; rfl
  | tag hbody hname hfree hkey =>
    rw [readPlaceholder_free hbody hname hfree, idxOf?_eq_some_iff_firstKey.2 hkey]

theorem readPlaceholder_of_fault {e : Fault} (h : BodyFault source keys body e) :
    readPlaceholder source keys times body = .error e := by
  cases h with
  | count h hn => exact readPlaceholder_badCount (nameAndCount_eq_error.2 ⟨_, _, rfl, h, hn, rfl⟩)
  | name hbody hname => exact readPlaceholder_badName hbody hname
  | repeated hbody => rw [readPlaceholder_bound hbody]; rfl
  | unknown hbody hname hfree hkey =>
    rw [readPlaceholder_free hbody hname hfree, List.idxOf?_eq_none_iff.2 hkey]

/-- every placeholder's text is good or bad -/
theorem placed_or_fault (source : String) (keys : List String) (times : Nat) (body : List Char) :
    (∃ s, Placed keys times body s) ∨ ∃ e, BodyFault source keys body e := by
  cases hparts : nameAndCount body with
  | error m =>
    obtain ⟨name, count, rfl, hcolon, hn, _⟩ := nameAndCount_eq_error.1 hparts
    exact .inr ⟨_, .count hcolon hn⟩
  | ok parts =>
    obtain ⟨name, count⟩ := parts
    have hbody : BodyText body name count := nameAndCount_eq_ok.1 hparts
    by_cases hname : NameText name
    · by_cases hfree : Free name
      · cases hkey : keys.idxOf? (String.ofList name) with
        | some key => exact .inl ⟨_, .tag hbody hname hfree (idxOf?_eq_some_iff_firstKey.1 hkey)⟩
        | none => exact .inr ⟨_, .unknown hbody hname hfree (List.idxOf?_eq_none_iff.1 hkey)⟩
      · unfold Free at hfree
        push Not at hfree
        obtain ⟨b, rfl⟩ := hfree
        cases hbody with
        | plain h => exact .inl ⟨_, .bound b⟩
        | counted h hn => exact .inr ⟨_, .repeated (.counted h hn)⟩
    · exact .inr ⟨_, .name hbody hname⟩

/-- the reader accepts the good placeholders -/
theorem readPlaceholder_ok_iff {s : Segment} :
    readPlaceholder source keys times body = .ok s ↔ Placed keys times body s := by
  refine ⟨fun h => ?_, readPlaceholder_of_placed⟩
  rcases placed_or_fault source keys times body with ⟨s', hs'⟩ | ⟨e, he⟩
  · rw [readPlaceholder_of_placed hs'] at h
    obtain rfl := Except.ok.inj h
    exact hs'
  · rw [readPlaceholder_of_fault he] at h
    exact absurd h (by simp)

/-- the reader names the fault of the bad placeholders -/
theorem readPlaceholder_error_iff {e : Fault} :
    readPlaceholder source keys times body = .error e ↔ BodyFault source keys body e := by
  refine ⟨fun h => ?_, readPlaceholder_of_fault⟩
  rcases placed_or_fault source keys times body with ⟨s, hs⟩ | ⟨e', he'⟩
  · rw [readPlaceholder_of_placed hs] at h
    exact absurd h (by simp)
  · rw [readPlaceholder_of_fault he'] at h
    obtain rfl := Except.error.inj h
    exact he'

end

end Telemetry.Template
