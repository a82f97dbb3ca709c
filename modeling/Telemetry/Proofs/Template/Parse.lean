import Telemetry.Proofs.Template.Grammar

/-!
# Which texts are templates

The reader against the grammar, for every text, every list of tag keys and every default count.

* `Piece`         some text and the placeholder after it; `Piece.Good` says that both end where the
                  first pair of braces says, and that the placeholder stands for its segment;
* `spelled`       the text of pieces in a row, and what follows them;
* `FirstFault`    a text whose first placeholder is bad, and what is wrong with it;
* `parse_iff`     a text is read exactly where it is good pieces and a last text without a
                  placeholder, and it then has the segments of these pieces; otherwise it is good
                  pieces and a bad placeholder, and the error is the fault of that one.
-/

namespace Telemetry.Template

open Text (PairAtEnd)

/-- some text and the placeholder after it -/
structure Piece where
  before : List Char
  body : List Char
  segment : Segment

/-- both texts end where the first pair of braces says, and the placeholder stands for its segment -/
structure Piece.Good (keys : List String) (times : Nat) (p : Piece) : Prop where
  before : PairAtEnd '\x7b' p.before
  body : PairAtEnd '\x7d' p.body
  placed : Placed keys times p.body p.segment

/-- the parts of a template that a piece makes; an empty text makes none -/
def Piece.segments (p : Piece) : List Segment := literal p.before ++ [p.segment]

/-- the text of pieces in a row, and what follows them -/
def spelled : List Piece → List Char → List Char
  | [], rest => rest
  | p :: ps, rest => p.before ++ '\x7b' :: '\x7b' :: (p.body ++ '\x7d' :: '\x7d' :: spelled ps rest)

/-- a text whose first placeholder is bad, and what is wrong with it -/
inductive FirstFault (source : String) (keys : List String) : List Char → Fault → Prop where
  | unterminated {before inner : List Char} (h : PairAtEnd '\x7b' before)
    (hinner : ¬ ['\x7d', '\x7d'] <:+: inner) :
    FirstFault source keys (before ++ '\x7b' :: '\x7b' :: inner)
      (.malformedPlaceholder source .unterminated)
  | bad {before body after : List Char} {e : Fault} (h : PairAtEnd '\x7b' before)
    (hbody : PairAtEnd '\x7d' body) (he : BodyFault source keys body e) :
    FirstFault source keys
      (before ++ '\x7b' :: '\x7b' :: (body ++ '\x7d' :: '\x7d' :: after)) e

/-! ## one turn of the reader -/

section
variable {source : String} {keys : List String} {times : Nat} {before body after : List Char}

theorem readSegments_last {last : List Char} (h : ¬ ['\x7b', '\x7b'] <:+: last) :
    readSegments source keys times last = .ok (literal last) := by
  rw [readSegments]
  split
  · rfl
  · rename_i hopen
    rw [Text.cutPair?_eq_none.2 h] at hopen
    exact absurd hopen.symm (Option.some_ne_none _)

theorem readSegments_unterminated {inner : List Char} (h : PairAtEnd '\x7b' before)
    (hinner : ¬ ['\x7d', '\x7d'] <:+: inner) :
    readSegments source keys times (before ++ '\x7b' :: '\x7b' :: inner)
      = .error (.malformedPlaceholder source .unterminated) := by
  rw [readSegments]
  split
  · rename_i hopen
    rw [Text.cutPair?_append h] at hopen
    exact absurd hopen (Option.some_ne_none _)
  · rename_i hopen
    rw [Text.cutPair?_append h] at hopen
    obtain ⟨rfl, rfl⟩ := Prod.mk.inj (Option.some.inj hopen)
    split
    · rfl
    · rename_i hclose
      rw [Text.cutPair?_eq_none.2 hinner] at hclose
      exact absurd hclose.symm (Option.some_ne_none _)

theorem readSegments_piece (h : PairAtEnd '\x7b' before) (hbody : PairAtEnd '\x7d' body)
    (after : List Char) :
    readSegments source keys times
        (before ++ '\x7b' :: '\x7b' :: (body ++ '\x7d' :: '\x7d' :: after))
      = match readPlaceholder source keys times body with
        | .error e => .error e
        | .ok s => (readSegments source keys times after).map (literal before ++ s :: ·) := by
  rw [readSegments]
  split
  · rename_i hopen
    rw [Text.cutPair?_append h] at hopen
    exact absurd hopen (Option.some_ne_none _)
  · rename_i hopen
    rw [Text.cutPair?_append h] at hopen
    obtain ⟨rfl, rfl⟩ := Prod.mk.inj (Option.some.inj hopen)
    split
    · rename_i hclose
      rw [Text.cutPair?_append hbody] at hclose
      exact absurd hclose (Option.some_ne_none _)
    · rename_i hclose
      rw [Text.cutPair?_append hbody] at hclose
      obtain ⟨rfl, rfl⟩ := Prod.mk.inj (Option.some.inj hclose)
      cases readPlaceholder source keys times body with
      | error e => rfl
      | ok s => cases readSegments source keys times after <;> rfl

theorem readSegments_of_firstFault {rest : List Char} {e : Fault}
    (h : FirstFault source keys rest e) : readSegments source keys times rest = .error e := by
  cases h with
  | unterminated h hinner => exact readSegments_unterminated h hinner
  | bad h hbody he => rw [readSegments_piece h hbody, readPlaceholder_of_fault he]

/-! ## the whole text -/

/-- good pieces are read in order, and then the rest -/
theorem readSegments_spelled {pieces : List Piece} (h : ∀ p ∈ pieces, p.Good keys times)
    (rest : List Char) :
    readSegments source keys times (spelled pieces rest)
      = (readSegments source keys times rest).map (pieces.flatMap Piece.segments ++ ·) := by
  induction pieces with
  | nil =>
    show readSegments source keys times rest = _
    cases readSegments source keys times rest <;> rfl
  | cons p ps ih =>
    have hp := h p List.mem_cons_self
    have hps := ih fun q hq => h q (List.mem_cons_of_mem p hq)
    rw [spelled, readSegments_piece hp.before hp.body, readPlaceholder_of_placed hp.placed]
    show (readSegments source keys times (spelled ps rest)).map _ = _
    rw [hps]
    cases readSegments source keys times rest with
    | error e => rfl
    | ok segments =>
      show Except.ok (literal p.before ++ p.segment :: (ps.flatMap Piece.segments ++ segments))
        = Except.ok ((p :: ps).flatMap Piece.segments ++ segments)
      rw [List.flatMap_cons, Piece.segments, List.append_assoc, List.append_assoc]
      rfl

/-- every text is good pieces, and then a text without a placeholder or a bad placeholder -/
theorem exists_spelled (source : String) (keys : List String) (times : Nat) (cs : List Char) :
    ∃ pieces rest, cs = spelled pieces rest ∧ (∀ p ∈ pieces, p.Good keys times) ∧
      (¬ ['\x7b', '\x7b'] <:+: rest ∨ ∃ e, FirstFault source keys rest e) := by
  induction hlen : cs.length using Nat.strong_induction_on generalizing cs with
  | _ n ih =>
    cases hopen : Text.cutPair? '\x7b' cs with
    | none =>
      exact ⟨[], cs, rfl, fun p hp => absurd hp List.not_mem_nil,
        .inl (Text.cutPair?_eq_none.1 hopen)⟩
    | some cut =>
      obtain ⟨before, inner⟩ := cut
      obtain ⟨rfl, hbefore⟩ := Text.cutPair?_eq_some.1 hopen
      cases hclose : Text.cutPair? '\x7d' inner with
      | none =>
        exact ⟨[], _, rfl, fun p hp => absurd hp List.not_mem_nil,
          .inr ⟨_, .unterminated hbefore (Text.cutPair?_eq_none.1 hclose)⟩⟩
      | some cut =>
        obtain ⟨body, after⟩ := cut
        obtain ⟨rfl, hbody⟩ := Text.cutPair?_eq_some.1 hclose
        rcases placed_or_fault source keys times body with ⟨s, hs⟩ | ⟨e, he⟩
        · have hshort : after.length < n := by
            simp only [List.length_append, List.length_cons] at hlen
            omega
          obtain ⟨pieces, rest, rfl, hgood, hrest⟩ := ih after.length hshort after rfl
          refine ⟨⟨before, body, s⟩ :: pieces, rest, rfl, ?_, hrest⟩
          intro p hp
          rcases List.mem_cons.1 hp with rfl | hp
          · exact ⟨hbefore, hbody, hs⟩
          · exact hgood p hp
        · exact ⟨[], _, rfl, fun p hp => absurd hp List.not_mem_nil,
            .inr ⟨e, .bad hbefore hbody he⟩⟩

end

/-- **A text is a template exactly where it is good pieces and a last text without a placeholder.**
It then has the segments of these pieces, in order.  Otherwise it is good pieces and then a bad
placeholder, whose fault is the error. -/
theorem parse_iff (source : String) (keys : List String) (times : Nat) (htimes : 0 < times) :
    (∀ t, parse source keys times = .ok t ↔
      ∃ pieces last, source.toList = spelled pieces last ∧ (∀ p ∈ pieces, p.Good keys times) ∧
        ¬ ['\x7b', '\x7b'] <:+: last ∧
        t = ⟨source, pieces.flatMap Piece.segments ++ literal last⟩) ∧
    ∀ e, parse source keys times = .error e ↔
      ∃ pieces rest, source.toList = spelled pieces rest ∧ (∀ p ∈ pieces, p.Good keys times) ∧
        FirstFault source keys rest e := by
  have hparse : parse source keys times
      = (readSegments source keys times source.toList).map (Template.mk source) := by
    rw [parse, if_neg (by omega)]
  have hok : ∀ pieces last, source.toList = spelled pieces last →
      (∀ p ∈ pieces, p.Good keys times) → ¬ ['\x7b', '\x7b'] <:+: last →
      parse source keys times = .ok ⟨source, pieces.flatMap Piece.segments ++ literal last⟩ := by
    intro pieces last hcs hgood hlast
    rw [hparse, hcs, readSegments_spelled hgood, readSegments_last hlast]
    rfl
  have herror : ∀ pieces rest e, source.toList = spelled pieces rest →
      (∀ p ∈ pieces, p.Good keys times) → FirstFault source keys rest e →
      parse source keys times = .error e := by
    intro pieces rest e hcs hgood hrest
    rw [hparse, hcs, readSegments_spelled hgood, readSegments_of_firstFault hrest]
    rfl
  obtain ⟨pieces, rest, hcs, hgood, hrest⟩ := exists_spelled source keys times source.toList
  constructor
  · intro t
    constructor
    · intro h
      rcases hrest with hlast | ⟨e, he⟩
      · rw [hok pieces rest hcs hgood hlast] at h
        exact ⟨pieces, rest, hcs, hgood, hlast, (Except.ok.inj h).symm⟩
      · rw [herror pieces rest e hcs hgood he] at h
        exact absurd h (by simp)
    · rintro ⟨pieces, last, hcs, hgood, hlast, rfl⟩
      exact hok pieces last hcs hgood hlast
  · intro e
    constructor
    · intro h
      rcases hrest with hlast | ⟨e', he'⟩
      · rw [hok pieces rest hcs hgood hlast] at h
        exact absurd h (by simp)
      · rw [herror pieces rest e' hcs hgood he'] at h
        obtain rfl := Except.error.inj h
        exact ⟨pieces, rest, hcs, hgood, he'⟩
    · rintro ⟨pieces, rest, hcs, hgood, he⟩
      exact herror pieces rest e hcs hgood he

/-- of three braces the first two open a placeholder, and of three closing ones the first two close
it; the first of two equal keys is taken -/
theorem parse_iff_three_braces :
    parse "\x7b\x7bcity:+02\x7d\x7d\x7d" ["city", "city"] 3
        = .ok ⟨"\x7b\x7bcity:+02\x7d\x7d\x7d", [.placeholder (.tag 0) 2, .literal "\x7d"]⟩ ∧
      parse "\x7b\x7bnow\x7d\x7d\x7b\x7b\x7bcity\x7d\x7d\x7b\x7b" ["city"] 3
        = .error (.malformedPlaceholder "\x7b\x7bnow\x7d\x7d\x7b\x7b\x7bcity\x7d\x7d\x7b\x7b"
          (.badName "\x7bcity")) := by
  constructor
  · have hcity : Piece.Good ["city", "city"] 3
        ⟨[], ['c', 'i', 't', 'y', ':', '+', '0', '2'], .placeholder (.tag 0) 2⟩ :=
      ⟨Text.pairAtEnd_nil _, by simp [Text.pairAtEnd_cons, Text.pairAtEnd_nil],
        (@readPlaceholder_ok_iff "" _ _ _ _).1 (by decide)⟩
    exact ((parse_iff _ _ 3 (by decide)).1 _).2
      ⟨_, ['\x7d'], rfl, List.forall_mem_singleton.2 hcity, by decide, rfl⟩
  · have hnow : Piece.Good ["city"] 3 ⟨[], ['n', 'o', 'w'], .placeholder (.bound .now) 1⟩ :=
      ⟨Text.pairAtEnd_nil _, by simp [Text.pairAtEnd_cons, Text.pairAtEnd_nil],
        (@readPlaceholder_ok_iff "" _ _ _ _).1 (by decide)⟩
    have hcity : ∀ source, BodyFault source ["city"] ['\x7b', 'c', 'i', 't', 'y']
        (.malformedPlaceholder source (.badName "\x7bcity")) := fun source =>
      (@readPlaceholder_error_iff source _ 3 _ _).1 rfl
    have hbody : PairAtEnd '\x7d' ['\x7b', 'c', 'i', 't', 'y'] := by
      simp [Text.pairAtEnd_cons, Text.pairAtEnd_nil]
    exact ((parse_iff _ _ 3 (by decide)).2 _).2 ⟨_, _, rfl, List.forall_mem_singleton.2 hnow,
      @FirstFault.bad _ _ [] _ ['\x7b', '\x7b'] _ (Text.pairAtEnd_nil _) hbody (hcity _)⟩

end Telemetry.Template
