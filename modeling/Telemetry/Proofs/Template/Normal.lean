import Mathlib.Data.List.Chain
import Telemetry.Proofs.Decimal.Digits
import Telemetry.Proofs.Template.Parse
import Telemetry.Template.Printer

/-!
# Templates written and read back

A template that has been read is written in one way, and read again as the same segments.

* `Segment.Normal`, `Segment.Meets`, `Normal`  the segments that can be written, one by one and side
  by side;
* `readSegments_written`   normal segments are read back;
* `normal_of_readSegments`  what has been read is normal;
* `withCounts`             a text with a count at every tag that has none;
* `readSegments_countAll`  such a count says what the default count says;
* `parse_written`          all of this for whole texts.
-/

namespace Telemetry.Template

open Text (PairAtEnd)

/-! ## normal segments -/

/-- a segment that can be written: a literal that opens no placeholder, a bound, or a tag that is the
first with its name -/
inductive Segment.Normal (keys : List String) : Segment → Prop where
  | literal {text : String} (hne : text ≠ "") (hpair : ¬ ['\x7b', '\x7b'] <:+: text.toList) :
    Normal keys (.literal text)
  | bound (b : Bound) : Normal keys (.placeholder (.bound b) 1)
  | tag {name : List Char} {key times : Nat} (hname : NameText name) (hfree : Free name)
    (hkey : FirstKey keys name key) (hpos : 1 ≤ times) (hmax : times ≤ 4294967295) :
    Normal keys (.placeholder (.tag key) times)

/-- two segments that can stand side by side: two literals would be one, and a brace at the end of a
literal would belong to the placeholder behind it -/
def Segment.Meets : Segment → Segment → Prop
  | .literal _, .literal _ => False
  | .literal text, .placeholder _ _ => ¬ ['\x7b'] <:+ text.toList
  | .placeholder _ _, _ => True

structure Normal (keys : List String) (segments : List Segment) : Prop where
  each : ∀ seg ∈ segments, seg.Normal keys
  meets : segments.IsChain Segment.Meets

theorem normal_nil (keys : List String) : Normal keys [] := ⟨List.forall_mem_nil _, .nil⟩

theorem normal_cons {keys : List String} {seg : Segment} {segments : List Segment} :
    Normal keys (seg :: segments) ↔
      seg.Normal keys ∧ (∀ next ∈ segments.head?, seg.Meets next) ∧ Normal keys segments := by
  constructor
  · rintro ⟨heach, hmeets⟩
    obtain ⟨hseg, heach⟩ := List.forall_mem_cons.1 heach
    obtain ⟨hnext, hmeets⟩ := List.isChain_cons.1 hmeets
    exact ⟨hseg, hnext, heach, hmeets⟩
  · rintro ⟨hseg, hnext, heach, hmeets⟩
    exact ⟨List.forall_mem_cons.2 ⟨hseg, heach⟩, List.isChain_cons.2 ⟨hnext, hmeets⟩⟩

/-! ## writing -/

section
variable {keys : List String} {times : Nat}

theorem written_cons (seg : Segment) (segments : List Segment) :
    (written keys (seg :: segments)).toList
      = (seg.text keys).toList ++ (written keys segments).toList := by
  rw [written, List.map_cons, String.join_cons, String.toList_append]
  rfl

theorem toList_inBraces (body : String) :
    (inBraces body).toList = '\x7b' :: '\x7b' :: (body.toList ++ ['\x7d', '\x7d']) := by
  rw [inBraces, String.toList_append, String.toList_append]
  rfl

theorem literal_toList {text : String} (h : text ≠ "") :
    literal text.toList = [.literal text] := by
  have hne : text.toList.isEmpty = false := by
    rw [List.isEmpty_eq_false_iff]
    exact fun hnil => h (String.toList_eq_nil_iff.1 hnil)
  rw [literal, hne, String.ofList_toList]
  rfl

theorem NameText.notMem {name : List Char} {c : Char} (h : NameText name)
    (hc : isNameChar c = false) : c ∉ name := by
  intro hmem
  rw [isNameChar_iff.2 (h.2 c hmem)] at hc
  exact Bool.noConfusion hc

theorem countText_digits {n : Nat} (hpos : 1 ≤ n) (hmax : n ≤ 4294967295) :
    CountText (Decimal.digits n) n := by
  rw [← count?_eq_some, count?, Decimal.readNatural?_digits, Option.filter_some_pos]
  rw [Bool.and_eq_true, decide_eq_true_eq, decide_eq_true_eq]
  exact ⟨hpos, hmax⟩

theorem notMem_digits {n : Nat} {c : Char} (hc : c.isDigit = false) : c ∉ Decimal.digits n := by
  intro hmem
  rw [Decimal.mem_digits hmem] at hc
  exact Bool.noConfusion hc

/-- a placeholder is written as a text that stands for it, in braces -/
theorem exists_body (times : Nat) {p : Placeholder} {n : Nat}
    (h : Segment.Normal keys (.placeholder p n)) :
    ∃ body, (Segment.text keys (.placeholder p n)).toList
        = '\x7b' :: '\x7b' :: (body ++ ['\x7d', '\x7d']) ∧
      PairAtEnd '\x7d' body ∧ Placed keys times body (.placeholder p n) := by
  cases h with
  | bound b =>
    refine ⟨b.name.toList, toList_inBraces b.name, ?_, .bound b⟩
    exact Text.pairAtEnd_of_notMem (b.nameText.1.notMem (by decide))
  | @tag name key _ hname hfree hkey hpos hmax =>
    refine ⟨name ++ ':' :: Decimal.digits n, ?_, ?_, ?_⟩
    · rw [Segment.text, hkey.1, toList_inBraces]
      simp
    · apply Text.pairAtEnd_of_notMem
      intro hmem
      rcases List.mem_append.1 hmem with hmem | hmem
      · exact hname.notMem (by decide) hmem
      rcases List.mem_cons.1 hmem with hcolon | hmem
      · exact absurd hcolon (by decide)
      · exact notMem_digits (by decide) hmem
    · have hbody : BodyText (name ++ ':' :: Decimal.digits n) name (some n) :=
        .counted (hname.notMem (by decide)) (countText_digits hpos hmax)
      exact .tag hbody hname hfree hkey

/-- a placeholder that was written behind some text is read, and then what follows it -/
theorem readSegments_placeholder (source : String) {before rest : List Char}
    {segments : List Segment} {p : Placeholder} {n : Nat} (hbefore : PairAtEnd '\x7b' before)
    (h : Segment.Normal keys (.placeholder p n))
    (hrest : readSegments source keys times rest = .ok segments) :
    readSegments source keys times
        (before ++ ((Segment.text keys (.placeholder p n)).toList ++ rest))
      = .ok (literal before ++ .placeholder p n :: segments) := by
  obtain ⟨body, htext, hbody, hplaced⟩ := exists_body times h
  have hpiece : before ++ ((Segment.text keys (.placeholder p n)).toList ++ rest)
      = before ++ '\x7b' :: '\x7b' :: (body ++ '\x7d' :: '\x7d' :: rest) := by
    rw [htext]
    simp
  rw [hpiece, readSegments_piece hbefore hbody, readPlaceholder_of_placed hplaced, hrest]
  rfl

/-- **Normal segments are read back**, whatever the default count is. -/
theorem readSegments_written (source : String) : ∀ {segments : List Segment},
    Normal keys segments →
      readSegments source keys times (written keys segments).toList = .ok segments
  | [], _ => readSegments_last (by simp [written])
  | .placeholder p n :: rest, h => by
    obtain ⟨hseg, -, hrest⟩ := normal_cons.1 h
    rw [written_cons]
    exact readSegments_placeholder source (Text.pairAtEnd_nil _) hseg (readSegments_written source hrest)
  | [.literal text], h => by
    obtain ⟨hseg, -, -⟩ := normal_cons.1 h
    cases hseg with
    | literal hne hpair =>
      rw [written_cons]
      show readSegments source keys times (text.toList ++ []) = _
      rw [List.append_nil, readSegments_last hpair, literal_toList hne]
  | .literal text :: .placeholder p n :: rest, h => by
    obtain ⟨hseg, hnext, hrest⟩ := normal_cons.1 h
    obtain ⟨hplaceholder, -, hrest⟩ := normal_cons.1 hrest
    cases hseg with
    | literal hne hpair =>
      have hend : ¬ ['\x7b'] <:+ text.toList := hnext _ rfl
      have hread := readSegments_placeholder source (Text.pairAtEnd_iff.2 ⟨hpair, hend⟩)
        hplaceholder (readSegments_written source hrest)
      rw [literal_toList hne] at hread
      rw [written_cons, written_cons]
      exact hread
  | .literal text :: .literal next :: rest, h => by
    obtain ⟨-, hnext, -⟩ := normal_cons.1 h
    exact absurd (hnext _ rfl) id

/-! ## reading -/

theorem normal_literal {cs : List Char} (h : ¬ ['\x7b', '\x7b'] <:+: cs) :
    Normal keys (literal cs) := by
  unfold literal
  split
  · exact normal_nil keys
  · rename_i hempty
    rw [List.isEmpty_iff] at hempty
    refine normal_cons.2 ⟨.literal ?_ ?_, fun next hnext => ?_, normal_nil keys⟩
    · intro hofList
      apply hempty
      rw [← String.toList_ofList (l := cs), hofList]
      rfl
    · rwa [String.toList_ofList]
    · exact absurd hnext (by simp)

/-- a good placeholder is a normal segment, and no literal -/
theorem normal_of_placed (htimes : 0 < times) (hmax : times ≤ 4294967295) {body : List Char}
    {seg : Segment} (h : Placed keys times body seg) :
    seg.Normal keys ∧ ∃ p n, seg = .placeholder p n := by
  cases h with
  | bound b => exact ⟨.bound b, _, _, rfl⟩
  | tag hbody hname hfree hkey =>
    refine ⟨?_, _, _, rfl⟩
    cases hbody with
    | plain h => exact .tag hname hfree hkey htimes hmax
    | counted h hn =>
      obtain ⟨digits, -, -, -, -, hpos, hle⟩ := hn
      exact .tag hname hfree hkey hpos hle

theorem normal_piece (htimes : 0 < times) (hmax : times ≤ 4294967295) {piece : Piece}
    (hpiece : piece.Good keys times) {segments : List Segment} (h : Normal keys segments) :
    Normal keys (piece.segments ++ segments) := by
  obtain ⟨hnormal, p, n, hseg⟩ := normal_of_placed htimes hmax hpiece.placed
  obtain ⟨hpair, hend⟩ := Text.pairAtEnd_iff.1 hpiece.before
  have hrest : Normal keys (piece.segment :: segments) :=
    normal_cons.2 ⟨hnormal, fun next _ => by rw [hseg]; cases next <;> trivial, h⟩
  by_cases hempty : piece.before.isEmpty
  · rw [Piece.segments, literal, if_pos hempty]
    exact hrest
  · rw [Piece.segments, literal, if_neg hempty]
    have hliteral : Normal keys (literal piece.before) := normal_literal hpair
    rw [literal, if_neg hempty] at hliteral
    obtain ⟨htext, -, -⟩ := normal_cons.1 hliteral
    refine normal_cons.2 ⟨htext, fun next hnext => ?_, hrest⟩
    obtain rfl : piece.segment = next := Option.some.inj hnext
    rw [hseg]
    show ¬ ['\x7b'] <:+ (String.ofList piece.before).toList
    rwa [String.toList_ofList]

/-- what has been read is good pieces and a last text -/
theorem spelled_of_readSegments {source : String} {cs : List Char} {segments : List Segment}
    (h : readSegments source keys times cs = .ok segments) :
    ∃ pieces last, cs = spelled pieces last ∧ (∀ p ∈ pieces, p.Good keys times) ∧
      ¬ ['\x7b', '\x7b'] <:+: last ∧ segments = pieces.flatMap Piece.segments ++ literal last := by
  obtain ⟨pieces, rest, rfl, hgood, hrest⟩ := exists_spelled source keys times cs
  rw [readSegments_spelled hgood] at h
  rcases hrest with hlast | ⟨e, he⟩
  · rw [readSegments_last hlast] at h
    exact ⟨pieces, rest, rfl, hgood, hlast, (Except.ok.inj h).symm⟩
  · rw [readSegments_of_firstFault he] at h
    exact absurd h (by simp [Except.map])

/-- **What has been read is normal.** -/
theorem normal_of_readSegments (htimes : 0 < times) (hmax : times ≤ 4294967295) {source : String}
    {cs : List Char} {segments : List Segment}
    (h : readSegments source keys times cs = .ok segments) : Normal keys segments := by
  obtain ⟨pieces, last, -, hgood, hlast, rfl⟩ := spelled_of_readSegments h
  clear h
  induction pieces with
  | nil => exact normal_literal hlast
  | cons piece pieces ih =>
    obtain ⟨hpiece, hgood⟩ := List.forall_mem_cons.1 hgood
    rw [List.flatMap_cons, List.append_assoc]
    exact normal_piece htimes hmax hpiece (ih hgood)

/-! ## counts written out -/

/-- the text of a placeholder, with a count if it is a tag that has none -/
def countBody (times : Nat) (body : List Char) : List Char :=
  if ':' ∈ body ∨ (Bound.ofName? (String.ofList body)).isSome then body
  else body ++ ':' :: Decimal.digits times

/-- a text with a count at every tag that has none; what comes after an open placeholder stays -/
def countAll (times : Nat) (cs : List Char) : List Char :=
  match _hopen : Text.cutPair? '\x7b' cs with
  | none => cs
  | some (before, inner) =>
    match _hclose : Text.cutPair? '\x7d' inner with
    | none => cs
    | some (body, after) =>
      before ++ '\x7b' :: '\x7b' :: (countBody times body ++ '\x7d' :: '\x7d' :: countAll times after)
termination_by cs.length
decreasing_by
  exact Nat.lt_trans (Text.cutPair?_length _hclose) (Text.cutPair?_length _hopen)

def withCounts (times : Nat) (source : String) : String :=
  String.ofList (countAll times source.toList)

theorem countAll_last {last : List Char} (h : ¬ ['\x7b', '\x7b'] <:+: last) :
    countAll times last = last := by
  rw [countAll]
  split
  · rfl
  · rename_i hopen
    rw [Text.cutPair?_eq_none.2 h] at hopen
    exact absurd hopen.symm (Option.some_ne_none _)

theorem countAll_unterminated {before inner : List Char} (h : PairAtEnd '\x7b' before)
    (hinner : ¬ ['\x7d', '\x7d'] <:+: inner) :
    countAll times (before ++ '\x7b' :: '\x7b' :: inner) = before ++ '\x7b' :: '\x7b' :: inner := by
  rw [countAll]
  split
  · rfl
  · rename_i hopen
    rw [Text.cutPair?_append h] at hopen
    obtain ⟨rfl, rfl⟩ := Prod.mk.inj (Option.some.inj hopen)
    split
    · rfl
    · rename_i hclose
      rw [Text.cutPair?_eq_none.2 hinner] at hclose
      exact absurd hclose.symm (Option.some_ne_none _)

theorem countAll_piece {before body : List Char} (h : PairAtEnd '\x7b' before)
    (hbody : PairAtEnd '\x7d' body) (after : List Char) :
    countAll times (before ++ '\x7b' :: '\x7b' :: (body ++ '\x7d' :: '\x7d' :: after))
      = before ++ '\x7b' :: '\x7b' ::
        (countBody times body ++ '\x7d' :: '\x7d' :: countAll times after) := by
  rw [countAll]
  split
  · rename_i hopen
    rw [Text.cutPair?_append h] at hopen
    exact absurd hopen (Option.some_ne_none _)
  · rename_i hopen
    rw [Text.cutPair?_append h] at hopen
    obtain ⟨rfl, rfl⟩ := Prod.mk.inj (Option.some.inj hopen)
    split
    · rename_i hclose
      rw [Text.cutPair?_append hbody] at hclose
      exact absurd hclose (Option.some_ne_none _)
    · rename_i hclose
      rw [Text.cutPair?_append hbody] at hclose
      obtain ⟨rfl, rfl⟩ := Prod.mk.inj (Option.some.inj hclose)
      rfl

theorem countBody_kept {body : List Char}
    (h : ':' ∈ body ∨ (Bound.ofName? (String.ofList body)).isSome) : countBody times body = body :=
  if_pos h

theorem countBody_tag {body : List Char} (hcolon : ':' ∉ body) (hfree : Free body) :
    countBody times body = body ++ ':' :: Decimal.digits times := by
  refine if_neg (not_or.2 ⟨hcolon, ?_⟩)
  rw [Bound.ofName?_eq_none.2 hfree]
  exact Bool.false_ne_true

theorem pairAtEnd_countBody {body : List Char} (h : PairAtEnd '\x7d' body) :
    PairAtEnd '\x7d' (countBody times body) := by
  unfold countBody
  split
  · exact h
  · refine h.append (List.cons_ne_nil _ _) fun hmem => ?_
    rcases List.mem_cons.1 hmem with hcolon | hmem
    · exact absurd hcolon (by decide)
    · exact notMem_digits (by decide) hmem

/-- a count that is written out says what the default count says -/
theorem placed_countBody (htimes : 0 < times) (hmax : times ≤ 4294967295) {body : List Char}
    {seg : Segment} : Placed keys 1 (countBody times body) seg ↔ Placed keys times body seg := by
  -- only a tag without a count depends on the default count
  by_cases hkept : ':' ∈ body ∨ ∃ b : Bound, b.name.toList = body
  · have hsame : ∀ m n, Placed keys m body seg → Placed keys n body seg := by
      intro m n h
      cases h with
      | bound b => exact .bound b
      | tag hbody hname hfree hkey =>
        cases hbody with
        | plain hcolon => exact absurd hkept (not_or.2 ⟨hcolon, fun ⟨b, hb⟩ => hfree b hb⟩)
        | counted hcolon hn => exact .tag (.counted hcolon hn) hname hfree hkey
    have hcount : countBody times body = body := by
      refine countBody_kept (hkept.imp id fun ⟨b, hb⟩ => ?_)
      have hname : b.name = String.ofList body := by rw [← hb, String.ofList_toList]
      rw [Bound.ofName?_eq_some.2 hname]
      rfl
    rw [hcount]
    exact ⟨hsame 1 times, hsame times 1⟩
  · obtain ⟨hcolon, hnone⟩ := not_or.1 hkept
    have hfree : Free body := fun b hb => hnone ⟨b, hb⟩
    have hparts := nameAndCount_eq_ok.2 (BodyText.counted hcolon (countText_digits htimes hmax))
    rw [countBody_tag hcolon hfree]
    constructor
    · intro h
      generalize hbody : body ++ ':' :: Decimal.digits times = counted at h hparts
      cases h with
      | bound b =>
        have hmem : ':' ∈ b.name.toList := by
          rw [← hbody]
          simp
        exact absurd hmem b.nameText.2
      | tag hcounted hname hfree hkey =>
        rw [nameAndCount_eq_ok.2 hcounted] at hparts
        obtain ⟨rfl, rfl⟩ := Prod.mk.inj (Except.ok.inj hparts)
        exact .tag (.plain hcolon) hname hfree hkey
    · intro h
      cases h with
      | bound b => exact absurd rfl (hfree b)
      | tag hbody hname _ hkey =>
        cases hbody with
        | plain _ =>
          exact .tag (.counted hcolon (countText_digits htimes hmax)) hname hfree hkey
        | counted _ _ => exact absurd (by simp) hcolon

theorem toOption_map {ε α β : Type} (f : α → β) (x : Except ε α) :
    (x.map f).toOption = x.toOption.map f := by
  cases x <;> rfl

/-- **A count that is written out at every tag without one** says what the default count says: the
text is read as the same segments, or neither text is read. -/
theorem readSegments_countAll (htimes : 0 < times) (hmax : times ≤ 4294967295)
    (source source' : String) (cs : List Char) :
    (readSegments source' keys 1 (countAll times cs)).toOption
      = (readSegments source keys times cs).toOption := by
  -- by the length of the text, since both go on behind the first placeholder
  induction hlen : cs.length using Nat.strong_induction_on generalizing cs with
  | _ n ih =>
    cases hopen : Text.cutPair? '\x7b' cs with
    | none =>
      have hlast := Text.cutPair?_eq_none.1 hopen
      rw [countAll_last hlast, readSegments_last hlast, readSegments_last hlast]
    | some cut =>
      obtain ⟨before, inner⟩ := cut
      obtain ⟨rfl, hbefore⟩ := Text.cutPair?_eq_some.1 hopen
      cases hclose : Text.cutPair? '\x7d' inner with
      | none =>
        have hinner := Text.cutPair?_eq_none.1 hclose
        rw [countAll_unterminated hbefore hinner, readSegments_unterminated hbefore hinner,
          readSegments_unterminated hbefore hinner]
        rfl
      | some cut =>
        obtain ⟨body, after⟩ := cut
        obtain ⟨rfl, hbody⟩ := Text.cutPair?_eq_some.1 hclose
        have hshort : after.length < n := by
          simp only [List.length_append, List.length_cons] at hlen
          omega
        have ih := ih after.length hshort after rfl
        rw [countAll_piece hbefore hbody, readSegments_piece hbefore (pairAtEnd_countBody hbody),
          readSegments_piece hbefore hbody]
        cases hread : readPlaceholder source keys times body with
        | ok seg =>
          have hcounted := (placed_countBody htimes hmax).2 (readPlaceholder_ok_iff.1 hread)
          rw [readPlaceholder_of_placed hcounted]
          show ((readSegments source' keys 1 (countAll times after)).map _).toOption
            = ((readSegments source keys times after).map _).toOption
          rw [toOption_map, toOption_map, ih]
        | error e =>
          cases hcounted : readPlaceholder source' keys 1 (countBody times body) with
          | error e' => rfl
          | ok seg =>
            have hplaced := (placed_countBody htimes hmax).1 (readPlaceholder_ok_iff.1 hcounted)
            rw [readPlaceholder_of_placed hplaced] at hread
            exact absurd hread (by simp)

end

/-! ## whole texts -/

section
variable {keys : List String} {times : Nat}

theorem parse_of_pos (htimes : 0 < times) (source : String) :
    parse source keys times
      = (readSegments source keys times source.toList).map (Template.mk source) := by
  rw [parse, if_neg (Nat.ne_of_gt htimes)]

theorem parse_of_normal (htimes : 0 < times) {segments : List Segment}
    (h : Normal keys segments) :
    parse (written keys segments) keys times = .ok ⟨written keys segments, segments⟩ := by
  rw [parse_of_pos htimes, readSegments_written _ h]
  rfl

theorem normal_of_parse (htimes : 0 < times) (hmax : times ≤ 4294967295) {source : String}
    {t : Template} (h : parse source keys times = .ok t) : Normal keys t.segments := by
  rw [parse_of_pos htimes] at h
  cases hread : readSegments source keys times source.toList with
  | error e =>
    rw [hread] at h
    exact absurd h (by simp [Except.map])
  | ok segments =>
    rw [hread] at h
    obtain rfl := Except.ok.inj h
    exact normal_of_readSegments htimes hmax hread

theorem parse_withCounts (htimes : 0 < times) (hmax : times ≤ 4294967295) (source : String) :
    (parse (withCounts times source) keys 1).toOption.map Template.segments
      = (parse source keys times).toOption.map Template.segments := by
  have hread : (readSegments (withCounts times source) keys 1
      (countAll times source.toList)).toOption
        = (readSegments source keys times source.toList).toOption :=
    readSegments_countAll htimes hmax source _ source.toList
  rw [parse_of_pos Nat.one_pos, parse_of_pos htimes, toOption_map, toOption_map, Option.map_map,
    Option.map_map, withCounts, String.toList_ofList]
  rw [withCounts] at hread
  rw [hread]
  rfl

end

/-- **Writing and reading are inverse.**  Normal segments are read back from their text, whatever the
default count is.  What has been read from any text is normal, so it is read again from its own
text; and the default count may be written out at every tag without one, which changes neither
whether a text is read nor as which segments. -/
theorem parse_written (keys : List String) (times : Nat) (htimes : 0 < times)
    (hmax : times ≤ 4294967295) :
    (∀ segments, Normal keys segments →
      parse (written keys segments) keys times = .ok ⟨written keys segments, segments⟩) ∧
    ∀ source,
      (∀ t, parse source keys times = .ok t → Normal keys t.segments ∧
        parse (written keys t.segments) keys times
          = .ok ⟨written keys t.segments, t.segments⟩) ∧
      (parse (withCounts times source) keys 1).toOption.map Template.segments
        = (parse source keys times).toOption.map Template.segments := by
  refine ⟨fun segments h => parse_of_normal htimes h, fun source => ⟨fun t h => ?_, ?_⟩⟩
  · have hnormal := normal_of_parse htimes hmax h
    exact ⟨hnormal, parse_of_normal htimes hnormal⟩
  · exact parse_withCounts htimes hmax source

/-- braces on both sides of a placeholder with the largest count, and a text with three braces in a
row in which one of two tags has no count -/
theorem parse_written_braces :
    (0 < 3 ∧ 3 ≤ 4294967295) ∧
    parse "\x7d\x7ba\x7b\x7bsite_id:4294967295\x7d\x7d\x7d\x7b" ["city", "site_id"] 3
      = .ok ⟨"\x7d\x7ba\x7b\x7bsite_id:4294967295\x7d\x7d\x7d\x7b",
        [.literal "\x7d\x7ba", .placeholder (.tag 1) 4294967295, .literal "\x7d\x7b"]⟩ ∧
    Normal ["city", "site_id"]
      [.placeholder (.tag 0) 3, .literal "\x7d", .placeholder (.bound .now) 1,
        .placeholder (.tag 0) 2] ∧
    (parse "\x7b\x7bcity:3\x7d\x7d\x7d\x7b\x7bnow\x7d\x7d\x7b\x7bcity:+2\x7d\x7d"
        ["city", "site_id"] 1).toOption.map Template.segments
      = some [.placeholder (.tag 0) 3, .literal "\x7d", .placeholder (.bound .now) 1,
        .placeholder (.tag 0) 2] := by
  obtain ⟨hwritten, hread⟩ := parse_written ["city", "site_id"] 3 (by decide) (by decide)
  have hname : NameText "site_id".toList := isName_iff.1 (by decide)
  have hfree : Free "site_id".toList := by
    intro b
    cases b <;> decide
  have hnormal : Normal ["city", "site_id"]
      [.literal "\x7d\x7ba", .placeholder (.tag 1) 4294967295, .literal "\x7d\x7b"] := by
    refine ⟨?_, ?_⟩
    · rw [List.forall_mem_cons, List.forall_mem_cons, List.forall_mem_singleton]
      exact ⟨.literal (by decide) (by decide),
        .tag hname hfree ⟨rfl, by decide⟩ (by decide) (Nat.le_refl _),
        .literal (by decide) (by decide)⟩
    · refine .cons_cons ?_ (.cons_cons trivial (.singleton _))
      show ¬ ['\x7b'] <:+ "\x7d\x7ba".toList
      decide
  obtain ⟨hsegments, hcounts⟩ :=
    hread "\x7b\x7bcity\x7d\x7d\x7d\x7b\x7bnow\x7d\x7d\x7b\x7bcity:+2\x7d\x7d"
  have hparse : parse "\x7b\x7bcity\x7d\x7d\x7d\x7b\x7bnow\x7d\x7d\x7b\x7bcity:+2\x7d\x7d"
      ["city", "site_id"] 3
        = .ok ⟨"\x7b\x7bcity\x7d\x7d\x7d\x7b\x7bnow\x7d\x7d\x7b\x7bcity:+2\x7d\x7d",
          [.placeholder (.tag 0) 3, .literal "\x7d", .placeholder (.bound .now) 1,
            .placeholder (.tag 0) 2]⟩ := by
    decide +kernel
  have htext : withCounts 3 "\x7b\x7bcity\x7d\x7d\x7d\x7b\x7bnow\x7d\x7d\x7b\x7bcity:+2\x7d\x7d"
      = "\x7b\x7bcity:3\x7d\x7d\x7d\x7b\x7bnow\x7d\x7d\x7b\x7bcity:+2\x7d\x7d" := by
    decide +kernel
  refine ⟨⟨by decide, by decide⟩, hwritten _ hnormal, (hsegments _ hparse).1, ?_⟩
  rw [← htext, hcounts, hparse]
  rfl

end Telemetry.Template
