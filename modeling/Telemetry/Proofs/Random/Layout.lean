import Mathlib.Algebra.BigOperators.Group.Finset.Basic
import Telemetry.Generator.Nginx
import Telemetry.Proofs.Random.Slice
import Telemetry.Proofs.Word

/-!
# Layouts of a word

A slice reads the bits that it covers and no others.  So values can be put into the slices of a
layout one after the other, as long as no two slices share a bit.

* `Slice.Fits`, `Slice.Apart`  a slice within the word, and two slices without a bit in common;
* `testBit_read`, `read_eq_iff`  the bits of a slice, and the words on which it reads the same;
* `Slice.put`           a word with a value put into a slice, which leaves the slices apart from it
                        alone;
* `fill`, `read_fill`   a word with a value in every slice of a layout;
* `nth`, `sum_bits`     slices of one width, side by side, and the number that they add up to;
* `slices_independent`  any values for any layout, and nothing but the slice counts.
-/

namespace Telemetry.Random

/-- a place for a small number in a word -/
structure Slice where
  offset : UInt32
  width : UInt32
deriving DecidableEq, Repr

namespace Slice

/-- the bit after the last one of the slice -/
def stop (s : Slice) : Nat := s.offset.toNat + s.width.toNat

/-- from 1 to 32 bits, which end within the word -/
def Fits (s : Slice) : Prop := 1 ≤ s.width.toNat ∧ s.width.toNat ≤ 32 ∧ s.stop ≤ 64

instance (s : Slice) : Decidable s.Fits := inferInstanceAs (Decidable (_ ∧ _ ∧ _))

/-- whether a bit is one of the slice -/
def Covers (s : Slice) (i : Nat) : Prop := s.offset.toNat ≤ i ∧ i < s.stop

instance (s : Slice) (i : Nat) : Decidable (s.Covers i) := inferInstanceAs (Decidable (_ ∧ _))

/-- one slice ends before the other starts -/
def Apart (s t : Slice) : Prop := s.stop ≤ t.offset.toNat ∨ t.stop ≤ s.offset.toNat

instance (s t : Slice) : Decidable (s.Apart t) := inferInstanceAs (Decidable (_ ∨ _))

/-- the number in the slice -/
def read (s : Slice) (word : UInt64) : UInt32 := bitsAt word s.offset s.width

/-! ## reading -/

section
variable {s t : Slice} {word word' : UInt64} {value : UInt32}

theorem testBit_read (h : s.Fits) (word : UInt64) (i : Nat) : (s.read word).toNat.testBit i
    = (decide (i < s.width.toNat) && word.toNat.testBit (s.offset.toNat + i)) := by
  obtain ⟨hpos, hwidth, hstop⟩ := h
  have hoffset : s.offset.toNat < 64 := by
    unfold stop at hstop
    omega
  rw [read, toNat_bitsAt hoffset hwidth, cut, Nat.testBit_mod_two_pow, Nat.testBit_div_two_pow,
    Nat.add_comm]

theorem read_eq_iff (h : s.Fits) : s.read word = s.read word' ↔
    ∀ i, s.Covers i → word.toNat.testBit i = word'.toNat.testBit i := by
  constructor
  · rintro heq i ⟨hle, hlt⟩
    have hbit := congrArg (fun v : UInt32 => v.toNat.testBit (i - s.offset.toNat)) heq
    simp only [testBit_read h] at hbit
    unfold stop at hlt
    rwa [decide_eq_true (by omega), Bool.true_and, Bool.true_and, Nat.add_sub_of_le hle] at hbit
  · intro heq
    apply UInt32.toNat_inj.1
    apply Nat.eq_of_testBit_eq
    intro i
    rw [testBit_read h, testBit_read h]
    rcases Nat.lt_or_ge i s.width.toNat with hi | hi
    · rw [heq _ ⟨Nat.le_add_right _ _, Nat.add_lt_add_left hi _⟩]
    · rw [decide_eq_false (Nat.not_lt_of_le hi), Bool.false_and, Bool.false_and]

/-! ## writing -/

/-- the word with a value in the slice: the bits in which the slice differs are turned over -/
def put (s : Slice) (value : UInt32) (word : UInt64) : UInt64 :=
  word ^^^ ((s.read word ^^^ value).toUInt64 <<< s.offset.toUInt64)

theorem testBit_put (h : s.Fits) (hvalue : value.toNat < 2 ^ s.width.toNat) (word : UInt64)
    (i : Nat) : (s.put value word).toNat.testBit i
      = if s.Covers i then value.toNat.testBit (i - s.offset.toNat) else word.toNat.testBit i := by
  have hstop : s.offset.toNat + s.width.toNat ≤ 64 := h.2.2
  have hwidth : 1 ≤ s.width.toNat := h.1
  rcases Nat.lt_or_ge i 64 with hi | hi
  · have hoffset : s.offset.toUInt64.toNat < 64 := by
      rw [UInt32.toNat_toUInt64]
      omega
    rw [put, UInt64.toNat_xor, Nat.testBit_xor, Word.testBit_shiftLeft hoffset hi,
      UInt32.toNat_toUInt64, UInt32.toNat_toUInt64, UInt32.toNat_xor, Nat.testBit_xor,
      testBit_read h]
    -- below the slice nothing is turned over, and above it both numbers have run out of bits
    rcases Nat.lt_or_ge i s.offset.toNat with hbelow | hfrom
    · have hout : ¬ s.Covers i := fun hcovers => Nat.not_le_of_lt hbelow hcovers.1
      rw [decide_eq_false (Nat.not_le_of_lt hbelow), Bool.false_and, Bool.xor_false, if_neg hout]
    rw [decide_eq_true hfrom, Bool.true_and, Nat.add_sub_of_le hfrom]
    rcases Nat.lt_or_ge (i - s.offset.toNat) s.width.toNat with hwithin | habove
    · have hcovers : s.Covers i := ⟨hfrom, Nat.sub_lt_iff_lt_add' hfrom |>.1 hwithin⟩
      rw [decide_eq_true hwithin, Bool.true_and, if_pos hcovers, ← Bool.xor_assoc, Bool.xor_self,
        Bool.false_xor]
    · have hout : ¬ s.Covers i := by
        rintro ⟨-, hlt⟩
        unfold stop at hlt
        omega
      have hzero : value.toNat.testBit (i - s.offset.toNat) = false :=
        Nat.testBit_lt_two_pow
          (Nat.lt_of_lt_of_le hvalue (Nat.pow_le_pow_right (by decide) habove))
      rw [decide_eq_false (Nat.not_lt_of_le habove), Bool.false_and, hzero, Bool.xor_false,
        Bool.xor_false, if_neg hout]
  · have hout : ¬ s.Covers i := fun hcovers =>
      Nat.not_lt_of_le hi (Nat.lt_of_lt_of_le hcovers.2 hstop)
    rw [Word.testBit_of_le _ hi, Word.testBit_of_le _ hi, if_neg hout]

theorem read_put (h : s.Fits) (hvalue : value.toNat < 2 ^ s.width.toNat) (word : UInt64) :
    s.read (s.put value word) = value := by
  apply UInt32.toNat_inj.1
  apply Nat.eq_of_testBit_eq
  intro i
  rw [testBit_read h, testBit_put h hvalue]
  rcases Nat.lt_or_ge i s.width.toNat with hi | hi
  · rw [decide_eq_true hi, Bool.true_and, if_pos ⟨Nat.le_add_right _ _, Nat.add_lt_add_left hi _⟩,
      Nat.add_sub_cancel_left]
  · rw [decide_eq_false (Nat.not_lt_of_le hi), Bool.false_and]
    exact (Nat.testBit_lt_two_pow
      (Nat.lt_of_lt_of_le hvalue (Nat.pow_le_pow_right (by decide) hi))).symm

theorem Apart.not_covers (h : s.Apart t) {i : Nat} (ht : t.Covers i) : ¬ s.Covers i := by
  rintro ⟨hle, hlt⟩
  obtain ⟨hle', hlt'⟩ := ht
  rcases h with h | h <;> omega

theorem read_put_of_apart (hs : s.Fits) (hvalue : value.toNat < 2 ^ s.width.toNat) (ht : t.Fits)
    (hapart : s.Apart t) (word : UInt64) : t.read (s.put value word) = t.read word := by
  rw [read_eq_iff ht]
  intro i hi
  rw [testBit_put hs hvalue, if_neg (hapart.not_covers hi)]

end

/-! ## layouts -/

/-- a word with a value in every slice of a layout, and no other bit -/
def fill (fields : List (Slice × UInt32)) : UInt64 :=
  fields.foldr (fun field word => field.1.put field.2 word) 0

theorem read_fill {fields : List (Slice × UInt32)}
    (hfits : ∀ field ∈ fields, field.1.Fits ∧ field.2.toNat < 2 ^ field.1.width.toNat)
    (hapart : fields.Pairwise fun field other => field.1.Apart other.1) :
    ∀ field ∈ fields, field.1.read (fill fields) = field.2 := by
  induction fields with
  | nil => exact fun field hfield => absurd hfield List.not_mem_nil
  | cons first rest ih =>
    obtain ⟨hfirst, hrest⟩ := List.forall_mem_cons.1 hfits
    obtain ⟨hother, hapart⟩ := List.pairwise_cons.1 hapart
    refine List.forall_mem_cons.2 ⟨read_put hfirst.1 hfirst.2 _, fun field hfield => ?_⟩
    show field.1.read (first.1.put first.2 (fill rest)) = field.2
    rw [read_put_of_apart hfirst.1 hfirst.2 (hrest field hfield).1 (hother field hfield)]
    exact ih hrest hapart field hfield

/-! ## slices of one width -/

/-- slice number `index`, where all slices have one width -/
def nth (width index : UInt32) : Slice := ⟨index * width, width⟩

theorem bits_eq (word : UInt64) (index width : UInt32) :
    bits word index width = (nth width index).read word := rfl

section
variable {width index other : UInt32}

theorem toNat_offset_nth (h : (index.toNat + 1) * width.toNat ≤ 64) :
    (nth width index).offset.toNat = index.toNat * width.toNat := by
  show (index * width).toNat = _
  rw [Nat.add_mul] at h
  rw [UInt32.toNat_mul]
  exact Nat.mod_eq_of_lt (by omega)

theorem stop_nth (h : (index.toNat + 1) * width.toNat ≤ 64) :
    (nth width index).stop = (index.toNat + 1) * width.toNat := by
  rw [stop, toNat_offset_nth h, Nat.add_mul, Nat.one_mul]
  rfl

theorem fits_nth (hpos : 1 ≤ width.toNat) (hwidth : width.toNat ≤ 32)
    (h : (index.toNat + 1) * width.toNat ≤ 64) : (nth width index).Fits := by
  refine ⟨hpos, hwidth, ?_⟩
  rw [stop_nth h]
  exact h

theorem apart_nth (h : (index.toNat + 1) * width.toNat ≤ 64)
    (hother : (other.toNat + 1) * width.toNat ≤ 64) (hne : index ≠ other) :
    (nth width index).Apart (nth width other) := by
  have hne : index.toNat ≠ other.toNat := fun heq => hne (UInt32.toNat_inj.1 heq)
  unfold Apart
  rw [stop_nth h, stop_nth hother, toNat_offset_nth h, toNat_offset_nth hother]
  rcases Nat.lt_or_gt_of_ne hne with hlt | hlt
  · exact .inl (Nat.mul_le_mul_right _ hlt)
  · exact .inr (Nat.mul_le_mul_right _ hlt)

/-- slices of one width, as the digits of a number, are the low bits of the word -/
theorem sum_bits (hpos : 1 ≤ width.toNat) (hwidth : width.toNat ≤ 32) (word : UInt64) {n : Nat}
    (hn : n * width.toNat ≤ 64) :
    ∑ i ∈ Finset.range n, (bits word i.toUInt32 width).toNat * 2 ^ (i * width.toNat)
      = word.toNat % 2 ^ (n * width.toNat) := by
  induction n with
  | zero =>
    rw [Finset.sum_range_zero, Nat.zero_mul, Nat.pow_zero, Nat.mod_one]
  | succ n ih =>
    have hle : n * width.toNat ≤ 64 := Nat.le_trans (Nat.mul_le_mul_right _ (Nat.le_succ n)) hn
    -- so few slices are there that their numbers and places do not wrap
    have hcount : n ≤ n * width.toNat := Nat.le_mul_of_pos_right n hpos
    have hindex : n.toUInt32.toNat = n := Nat.mod_eq_of_lt (by omega)
    have hoffset : (n.toUInt32 * width).toNat = n * width.toNat := by
      rw [← hindex] at hn
      exact (toNat_offset_nth hn).trans (by rw [hindex])
    have hslice : (bits word n.toUInt32 width).toNat = cut (n * width.toNat) width.toNat word := by
      rw [Nat.add_mul] at hn
      rw [← hoffset]
      exact toNat_bitsAt (by omega) hwidth word
    rw [Finset.sum_range_succ, ih hle, hslice, cut, Nat.add_mul, Nat.one_mul, Nat.pow_add,
      Nat.mod_mul, Nat.mul_comm (2 ^ (n * width.toNat))]

end

end Slice

/-! ## independence -/

/-- **Slices without a common bit are independent.**  Any values that their slices can hold are read
from some word, whatever the layout is; a slice reads the same from two words just where these have
the same bits in it.  Slices of one width are such a layout, and they make up the low bits. -/
theorem slices_independent :
    (∀ fields : List (Slice × UInt32),
      (∀ field ∈ fields, field.1.Fits ∧ field.2.toNat < 2 ^ field.1.width.toNat) →
      (fields.Pairwise fun field other => field.1.Apart other.1) →
      ∃ word, ∀ field ∈ fields, bitsAt word field.1.offset field.1.width = field.2) ∧
    (∀ s : Slice, s.Fits → ∀ word word' : UInt64,
      bitsAt word s.offset s.width = bitsAt word' s.offset s.width ↔
        ∀ i, s.Covers i → word.toNat.testBit i = word'.toNat.testBit i) ∧
    ∀ width : UInt32, 1 ≤ width.toNat → width.toNat ≤ 32 →
      (∀ index : UInt32, (index.toNat + 1) * width.toNat ≤ 64 → (Slice.nth width index).Fits ∧
        (∀ word, bits word index width = (Slice.nth width index).read word) ∧
        ∀ other : UInt32, (other.toNat + 1) * width.toNat ≤ 64 → index ≠ other →
          (Slice.nth width index).Apart (Slice.nth width other)) ∧
      ∀ (n : Nat) (word : UInt64), n * width.toNat ≤ 64 →
        ∑ i ∈ Finset.range n, (bits word i.toUInt32 width).toNat * 2 ^ (i * width.toNat)
          = word.toNat % 2 ^ (n * width.toNat) := by
  refine ⟨fun fields hfits hapart => ⟨Slice.fill fields, Slice.read_fill hfits hapart⟩,
    fun s hs word word' => Slice.read_eq_iff hs, fun width hpos hwidth => ⟨fun index hindex => ?_, ?_⟩⟩
  · exact ⟨Slice.fits_nth hpos hwidth hindex, fun word => Slice.bits_eq word index width,
      fun other hother hne => Slice.apart_nth hindex hother hne⟩
  · exact fun n word hn => Slice.sum_bits hpos hwidth word hn

/-- the seven slices of a web server's draw, with a connection that is dropped -/
theorem slices_independent_web_server :
    ∃ word, Generator.Nginx.accepted word = 255 ∧ Generator.Nginx.dropped word = 1 ∧
      Generator.Nginx.requested word = 2040 ∧ bitsAt word 15 10 = 1000 ∧ bitsAt word 25 6 = 0 ∧
      bitsAt word 31 6 = 63 ∧ bitsAt word 37 10 = 512 := by
  obtain ⟨word, hword⟩ := slices_independent.1
    [(⟨0, 8⟩, 255), (⟨8, 4⟩, 0), (⟨12, 3⟩, 7), (⟨15, 10⟩, 1000), (⟨25, 6⟩, 0), (⟨31, 6⟩, 63),
      (⟨37, 10⟩, 512)] (by decide) (by decide)
  simp only [List.forall_mem_cons] at hword
  obtain ⟨haccepted, hlost, heach, hactive, hreading, hwriting, hwaiting, -⟩ := hword
  have h255 : Generator.Nginx.accepted word = 255 := congrArg UInt32.toUInt64 haccepted
  have hdropped : Generator.Nginx.dropped word = 1 := by
    rw [Generator.Nginx.dropped, h255]
    exact if_pos ⟨hlost, by decide⟩
  have hrequested : Generator.Nginx.requested word = 2040 := by
    rw [Generator.Nginx.requested, h255, heach]
    decide
  exact ⟨word, h255, hdropped, hrequested, hactive, hreading, hwriting, hwaiting⟩

end Telemetry.Random
