import Telemetry.Proofs.Generator.Walk
import Telemetry.Proofs.Word

/-!
# The moves of a walk

The move of a draw is its remainder by the number of moves, counted from the largest move down.  As
many moves as 64 bits can count are told apart, so for a large step the upper ones are left out.

* `turn`, `after`        one move by a drawn word, and the walk after any words;
* `offset_bounds`        a move is no larger than the step;
* `ExactMove w word`     a move computed in signed words of 128 bits, none of which wraps;
* `walks_stay_within`    bounds, answers and the lengths of moves, for any drawn words;
* `reaches_iff`          the moves that draws stand for;
* `moves_reached_iff`    these are all moves up to the step just where the step is below 2 ^ 63;
* `steepest`             a walk with the largest step, which only falls.
-/

namespace Telemetry.IntWalk

open Telemetry.Random

/-! ## moves in a row -/

/-- one move by a drawn word: the value after it, and the walk after it -/
def turn (w : IntWalk) (word : UInt64) : UInt64 × IntWalk :=
  ((w.move (offset w.step word)).value, w.move (offset w.step word))

/-- the walk after some drawn words -/
def after (w : IntWalk) (words : List UInt64) : IntWalk :=
  words.foldl (fun w word => (w.turn word).2) w

theorem after_concat (w : IntWalk) (words : List UInt64) (word : UInt64) :
    w.after (words ++ [word]) = ((w.after words).turn word).2 :=
  List.foldl_append ..

theorem advance_turn (w : IntWalk) (s : Stream) :
    w.advance.run s = (w.turn (draw64.run s).1, (draw64.run s).2) := rfl

variable {lo hi : UInt64}

theorem Within.turn {w : IntWalk} (h : w.Within lo hi) (word : UInt64) :
    (w.turn word).2.Within lo hi :=
  h.move _

theorem Within.after {w : IntWalk} (h : w.Within lo hi) (words : List UInt64) :
    (w.after words).Within lo hi := by
  induction words generalizing w with
  | nil => exact h
  | cons word words ih => exact ih (h.turn word)

theorem step_after (w : IntWalk) (words : List UInt64) : (w.after words).step = w.step := by
  induction words generalizing w with
  | nil => rfl
  | cons word words ih => exact ih (w.turn word).2

theorem toNat_turn {w : IntWalk} (word : UInt64) :
    ((w.turn word).1.toNat : Int)
      = max (w.lo.toNat : Int) (min (w.value.toNat + offset w.step word) w.hi.toNat) :=
  toNat_clamp w.lo_le_hi _

/-! ## the length of a move -/

theorem span_eq (step : UInt64) :
    span step = min (step.toNat * 2 + 1) 18446744073709551615 := by
  have htop : top = 18446744073709551615 := rfl
  unfold span
  omega

theorem span_pos (step : UInt64) : 0 < span step := by
  rw [span_eq]
  omega

theorem span_lt (step : UInt64) : span step < UInt64.size := by
  rw [span_eq]
  exact Nat.lt_of_le_of_lt (Nat.min_le_right _ _) (by decide)

theorem offset_lt (step word : UInt64) : offset step word + step.toNat < span step := by
  have hlt := Nat.mod_lt word.toNat (span_pos step)
  unfold offset
  omega

theorem offset_bounds (step word : UInt64) :
    -(step.toNat : Int) ≤ offset step word ∧ offset step word ≤ step.toNat := by
  have hlt := offset_lt step word
  have hspan := span_eq step
  refine ⟨?_, by omega⟩
  unfold offset
  omega

/-- from within the bounds, the value goes no further than the move -/
theorem Within.dist_turn {w : IntWalk} (h : w.Within lo hi) (word : UInt64) :
    (((w.turn word).1.toNat : Int) - w.value.toNat).natAbs ≤ w.step.toNat := by
  have hlo := h.lo_le
  have hhi := h.le_hi
  have hvalue := toNat_turn (w := w) word
  have hbounds := offset_bounds w.step word
  rw [h.lo_eq, h.hi_eq] at hvalue
  omega

/-! ## words of 128 bits -/

/-- a word as a signed word of 128 bits -/
def widen (w : UInt64) : BitVec 128 := w.toBitVec.setWidth 128

/-- the lower half of a word of 128 bits -/
def narrow (x : BitVec 128) : UInt64 := .ofBitVec (x.setWidth 64)

/-- the number of moves, as a word -/
def spanWord (step : UInt64) : UInt64 := (span step).toUInt64

/-- the move of a drawn word -/
def wideOffset (step word : UInt64) : BitVec 128 := widen (word % spanWord step) - widen step

/-- the value and the move of a drawn word added up -/
def wideSum (w : IntWalk) (word : UInt64) : BitVec 128 := widen w.value + wideOffset w.step word

/-- a signed word brought within bounds -/
def wideClamp (lo hi x : BitVec 128) : BitVec 128 :=
  if x.slt lo then lo else if hi.slt x then hi else x

/-- the value after a move, before it is cut to 64 bits -/
def wideValue (w : IntWalk) (word : UInt64) : BitVec 128 :=
  wideClamp (widen w.lo) (widen w.hi) (wideSum w word)

theorem toNat_widen (w : UInt64) : (widen w).toNat = w.toNat := by
  have hlt := w.toNat_lt
  rw [widen, BitVec.toNat_setWidth]
  exact Nat.mod_eq_of_lt (by show w.toNat < _; omega)

theorem toInt_widen (w : UInt64) : (widen w).toInt = w.toNat := by
  have hlt := w.toNat_lt
  rw [BitVec.toInt_eq_toNat_of_lt (by rw [toNat_widen]; omega), toNat_widen]

theorem narrow_widen (w : UInt64) : narrow (widen w) = w := by
  apply UInt64.toNat_inj.1
  show ((widen w).setWidth 64).toNat = _
  rw [BitVec.toNat_setWidth, toNat_widen]
  exact Nat.mod_eq_of_lt w.toNat_lt

theorem toNat_spanWord (step : UInt64) : (spanWord step).toNat = span step :=
  Word.toNat_toUInt64_of_lt (span_lt step)

theorem toInt_wideOffset (step word : UInt64) :
    (wideOffset step word).toInt = offset step word := by
  have hstep := step.toNat_lt
  have hlt := Nat.mod_lt word.toNat (span_pos step)
  have hspan := span_lt step
  have hsize : UInt64.size = 18446744073709551616 := rfl
  rw [wideOffset, BitVec.toInt_sub, toInt_widen, toInt_widen, UInt64.toNat_mod, toNat_spanWord]
  exact Int.bmod_eq_of_le (by omega) (by omega)

theorem toInt_wideSum (w : IntWalk) (word : UInt64) :
    (wideSum w word).toInt = w.value.toNat + offset w.step word := by
  have hvalue := w.value.toNat_lt
  have hstep := w.step.toNat_lt
  have hbounds := offset_bounds w.step word
  rw [wideSum, BitVec.toInt_add, toInt_widen, toInt_wideOffset]
  exact Int.bmod_eq_of_le (by omega) (by omega)

/-- within the bounds of words the wide value is the word that it was cut from -/
theorem wideClamp_eq (lo hi : UInt64) (x : BitVec 128) :
    wideClamp (widen lo) (widen hi) x = widen (clamp lo hi x.toInt) := by
  unfold wideClamp clamp
  simp only [BitVec.slt_iff_toInt_lt, toInt_widen]
  split
  · rfl
  split
  · rfl
  · apply BitVec.eq_of_toInt_eq
    have hlt := hi.toNat_lt
    rw [toInt_widen, Word.toNat_toUInt64_of_lt (by show _ < 18446744073709551616; omega)]
    omega

/-- a move comes out right in words: no step of its computation wraps or is cut -/
structure ExactMove (w : IntWalk) (word : UInt64) : Prop where
  span_eq : (spanWord w.step).toNat = min (w.step.toNat * 2 + 1) 18446744073709551615
  rest_eq : (widen (word % spanWord w.step)).toInt = (word.toNat % span w.step : Nat)
  step_eq : (widen w.step).toInt = w.step.toNat
  offset_eq : (wideOffset w.step word).toInt
    = (widen (word % spanWord w.step)).toInt - (widen w.step).toInt
  sum_eq : (wideSum w word).toInt = (widen w.value).toInt + (wideOffset w.step word).toInt
  value_eq : (wideValue w word).toInt = ((narrow (wideValue w word)).toNat : Int)
  turn_eq : (w.turn word).1 = narrow (wideValue w word)

theorem exactMove (w : IntWalk) (word : UInt64) : ExactMove w word := by
  have hwide : wideValue w word = widen (w.turn word).1 := by
    rw [wideValue, wideClamp_eq, toInt_wideSum]
    rfl
  have hrest : (widen (word % spanWord w.step)).toInt = (word.toNat % span w.step : Nat) := by
    rw [toInt_widen, UInt64.toNat_mod, toNat_spanWord]
  refine ⟨?_, hrest, toInt_widen _, ?_, ?_, ?_, ?_⟩
  · rw [toNat_spanWord, IntWalk.span_eq]
  · rw [hrest, toInt_widen, toInt_wideOffset]
    rfl
  · rw [toInt_wideSum, toInt_widen, toInt_wideOffset]
  · rw [hwide, narrow_widen, toInt_widen]
  · rw [hwide, narrow_widen]

/-! ## bounds -/

/-- **A walk stays within its bounds.**  It starts from any value, and its draws may be any words.
Its value is within the bounds at the start and after every move; a move answers the value that the
walk then has, which is no further than a step from the value before; and the words of 128 bits that
it is computed in stand for the integers. -/
theorem walks_stay_within (initial step : UInt64) (h : lo ≤ hi) :
    ∃ w, start? initial lo hi step = some w ∧
      (w.value.toNat : Int) = max (lo.toNat : Int) (min initial.toNat hi.toNat) ∧
      ∀ words : List UInt64, lo ≤ (w.after words).value ∧ (w.after words).value ≤ hi ∧
        (∀ word, lo ≤ ((w.after words).turn word).1 ∧ ((w.after words).turn word).1 ≤ hi ∧
          ((w.after words).turn word).1 = (w.after (words ++ [word])).value ∧
          ((((w.after words).turn word).1.toNat : Int) - (w.after words).value.toNat).natAbs
            ≤ step.toNat ∧
          ExactMove (w.after words) word) ∧
        ∀ s : Stream, (w.after words).advance.run s
          = ((((w.after words).turn (draw64.run s).1).1, w.after (words ++ [(draw64.run s).1])),
              (draw64.run s).2) := by
  refine ⟨start initial lo hi step h, dif_pos h, toNat_clamp h _, fun words => ?_⟩
  have hstart := within_start initial step h
  have hstep : ((start initial lo hi step h).after words).step = step := step_after _ words
  have hwithin := hstart.after words
  refine ⟨UInt64.le_iff_toNat_le.2 hwithin.lo_le, UInt64.le_iff_toNat_le.2 hwithin.le_hi,
    fun word => ?_, fun s => ?_⟩
  · have hturn := hwithin.turn word
    have hdist := hwithin.dist_turn word
    rw [hstep] at hdist
    refine ⟨UInt64.le_iff_toNat_le.2 hturn.lo_le, UInt64.le_iff_toNat_le.2 hturn.le_hi, ?_, hdist,
      exactMove _ word⟩
    rw [after_concat]
    rfl
  · rw [after_concat, advance_turn]

/-- the largest step between bounds at the upper end of all words, from the largest word down -/
theorem walks_stay_within_upper_half :
    (9223372036854775808 : UInt64) ≤ 18446744073709551615 ∧
    ∃ w, start? 18446744073709551615 9223372036854775808 18446744073709551615 18446744073709551615
        = some w ∧
      9223372036854775808 ≤ (w.after [7, 18446744073709551615]).value ∧
      ExactMove (w.after [7, 18446744073709551615]) 0 := by
  have hbounds : (9223372036854775808 : UInt64) ≤ 18446744073709551615 := by decide
  obtain ⟨w, hw, -, hall⟩ :=
    walks_stay_within 18446744073709551615 18446744073709551615 hbounds
  obtain ⟨hlo, -, hwords, -⟩ := hall [7, 18446744073709551615]
  exact ⟨hbounds, w, hw, hlo, (hwords 0).2.2.2.2⟩

/-! ## the moves that draws stand for -/

/-- a drawn word that is a move by `d`: the value goes by `d`, and stops at the bounds -/
structure MovesBy (w : IntWalk) (d : Int) (word : UInt64) : Prop where
  offset_eq : offset w.step word = d
  value_eq : ((w.turn word).2.value.toNat : Int)
    = max (w.lo.toNat : Int) (min (w.value.toNat + d) w.hi.toNat)

/-- some word other than zero is a move by `d` -/
def Reaches (w : IntWalk) (d : Int) : Prop := ∃ word, word ≠ 0 ∧ w.MovesBy d word

theorem movesBy_iff {w : IntWalk} {d : Int} {word : UInt64} :
    w.MovesBy d word ↔ offset w.step word = d := by
  refine ⟨fun h => h.offset_eq, ?_⟩
  rintro rfl
  exact ⟨rfl, toNat_turn word⟩

/-- every remainder is that of a word which is not zero -/
theorem exists_word_of_lt {step : UInt64} {n : Nat} (h : n < span step) :
    ∃ word : UInt64, word ≠ 0 ∧ word.toNat % span step = n := by
  rcases Nat.eq_zero_or_pos n with rfl | hpos
  · refine ⟨spanWord step, Word.toNat_pos_iff.1 ?_, ?_⟩
    · rw [toNat_spanWord]
      exact h
    · rw [toNat_spanWord, Nat.mod_self]
  · have hword : n.toUInt64.toNat = n := Word.toNat_toUInt64_of_lt (Nat.lt_trans h (span_lt step))
    refine ⟨n.toUInt64, Word.toNat_pos_iff.1 ?_, ?_⟩
    · rw [hword]
      exact hpos
    · rw [hword, Nat.mod_eq_of_lt h]

theorem reaches_iff {w : IntWalk} {d : Int} :
    w.Reaches d ↔ -(w.step.toNat : Int) ≤ d ∧ d + w.step.toNat < span w.step := by
  constructor
  · rintro ⟨word, -, hword⟩
    obtain rfl := movesBy_iff.1 hword
    exact ⟨(offset_bounds _ word).1, offset_lt _ word⟩
  · rintro ⟨hle, hlt⟩
    have hnat : ((d + w.step.toNat).toNat : Int) = d + w.step.toNat :=
      Int.toNat_of_nonneg (by omega)
    have hrest : (d + w.step.toNat).toNat < span w.step := by omega
    obtain ⟨word, hne, hword⟩ := exists_word_of_lt hrest
    refine ⟨word, hne, movesBy_iff.2 ?_⟩
    rw [offset, hword]
    omega

/-- **The moves of a walk.**  A draw is a move by `d` just where `d` is neither below the step down
nor above the step up, and the moves from the step down to `d` can be counted in 64 bits.  So all
moves up to the step have a draw just where the step is below 2 ^ 63. -/
theorem moves_reached_iff (w : IntWalk) :
    (∀ d : Int, w.Reaches d ↔ -(w.step.toNat : Int) ≤ d ∧ d ≤ w.step.toNat ∧
      d + w.step.toNat < 18446744073709551615) ∧
    ((∀ d : Int, w.Reaches d ↔ -(w.step.toNat : Int) ≤ d ∧ d ≤ w.step.toNat) ↔
      w.step.toNat < 9223372036854775808) ∧
    ∀ s : Stream, w.advance.run s = (w.turn (draw64.run s).1, (draw64.run s).2) := by
  have hspan := span_eq w.step
  refine ⟨fun d => ?_, ⟨fun h => ?_, fun h d => ?_⟩, advance_turn w⟩
  · rw [reaches_iff]
    omega
  · -- the step up is the move with the largest count
    have hlast := reaches_iff.1 ((h w.step.toNat).2 ⟨by omega, Int.le_refl _⟩)
    omega
  · rw [reaches_iff]
    omega

/-- a walk between zero and one with the largest step -/
def steepest : IntWalk := start 0 0 1 18446744073709551615 (by decide)

/-- a move by one is no larger than the step, but no word is one: each leaves the walk at zero -/
theorem not_reached_steepest :
    ¬ ((∃ word, steepest.MovesBy 1 word) ↔
        -(steepest.step.toNat : Int) ≤ 1 ∧ 1 ≤ (steepest.step.toNat : Int)) ∧
    ∀ word, (steepest.turn word).1 = 0 := by
  have hdown : ∀ word, offset steepest.step word < 0 := by
    intro word
    have hlt := offset_lt steepest.step word
    have hspan : span steepest.step = 18446744073709551615 := by decide
    have hstep : steepest.step.toNat = 18446744073709551615 := by decide
    omega
  refine ⟨fun h => ?_, fun word => ?_⟩
  · obtain ⟨word, hword⟩ := h.2 (by decide)
    have hneg := hdown word
    rw [hword.offset_eq] at hneg
    exact absurd hneg (by decide)
  · have hneg := hdown word
    have hvalue := toNat_turn (w := steepest) word
    have hzero : steepest.value.toNat = 0 := by decide
    have hlo : steepest.lo.toNat = 0 := by decide
    have hhi : steepest.hi.toNat = 1 := by decide
    rw [hzero, hlo, hhi] at hvalue
    apply UInt64.toNat_inj.1
    show (steepest.turn word).1.toNat = 0
    omega

end Telemetry.IntWalk
