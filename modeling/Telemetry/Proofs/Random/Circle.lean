import Mathlib.Dynamics.PeriodicPts.Lemmas
import Telemetry.Proofs.Random.Draw
import Telemetry.Proofs.Word

/-!
# The circles of a stream

The move of a word keeps exclusive or, so what it does to all words follows from what it does to the
64 words with a single bit.

* `Linear f`           a map of words that keeps exclusive or: no two words have one value if only
                       zero goes to zero, and it is zero if it is so at single bits;
* `step_injective`     the move: three maps that each add a shifted copy of the word to itself;
* `scramble_injective` the draw of a word, by the multiplier that undoes it;
* `combine cs w`       a sum (by exclusive or) of the words from `w` on, some of them left out;
* `combine_relation`   such a sum of 31 words that is zero, whatever the first word is;
* `step_eq_self`       so no word but zero stays where it is, for the sum would be that word;
* `draws_run`          draws in a row, none of them zero;
* `streams_circle`     every stream goes round a circle of its own, and never through zero.
-/

namespace Telemetry.Random

/-! ## maps that keep exclusive or -/

/-- a map of words that keeps exclusive or -/
def Linear (f : UInt64 → UInt64) : Prop := ∀ a b, f (a ^^^ b) = f a ^^^ f b

section
variable {f g : UInt64 → UInt64}

theorem Linear.zero (h : Linear f) : f 0 = 0 := by
  have hsum := h 0 0
  rwa [UInt64.xor_self, UInt64.xor_self] at hsum

theorem Linear.comp (hf : Linear f) (hg : Linear g) : Linear fun w => f (g w) := by
  intro a b
  show f (g (a ^^^ b)) = _
  rw [hg, hf]

theorem Linear.xor (hf : Linear f) (hg : Linear g) : Linear fun w => f w ^^^ g w := by
  intro a b
  show f (a ^^^ b) ^^^ g (a ^^^ b) = f a ^^^ g a ^^^ (f b ^^^ g b)
  rw [hf, hg]
  ac_rfl

/-- two words with one value differ by a word whose value is zero -/
theorem Linear.injective (h : Linear f) (hker : ∀ w, f w = 0 → w = 0) : Function.Injective f := by
  intro a b hab
  apply UInt64.xor_eq_zero_iff.1
  apply hker
  rw [h, hab, UInt64.xor_self]

/-- the word with a single bit -/
def single (i : Nat) : UInt64 := 1 <<< i.toUInt64

theorem toNat_single {i : Nat} (h : i < 64) : (single i).toNat = 2 ^ i := by
  have hpow : 2 ^ i < 2 ^ 64 := Nat.pow_lt_pow_right (by decide) h
  have hi : i.toUInt64.toNat = i := Nat.mod_eq_of_lt (by omega)
  rw [single, UInt64.toNat_shiftLeft, hi, Nat.mod_eq_of_lt h, Nat.shiftLeft_eq,
    show (1 : UInt64).toNat = 1 from rfl, Nat.one_mul, Nat.mod_eq_of_lt hpow]

/-- without its highest bit a word is shorter -/
theorem xor_single_lt {w : UInt64} {n : Nat} (hn : n < 64) (hlow : 2 ^ n ≤ w.toNat)
    (hhigh : w.toNat < 2 ^ (n + 1)) : (w ^^^ single n).toNat < 2 ^ n := by
  rw [UInt64.toNat_xor, toNat_single hn]
  apply Nat.lt_pow_two_of_testBit
  intro i hi
  rw [Nat.testBit_xor, Nat.testBit_two_pow]
  rcases Nat.eq_or_lt_of_le hi with rfl | hlt
  · have htop : w.toNat.testBit n = true := Nat.testBit_of_two_pow_le_and_two_pow_add_one_gt hlow hhigh
    rw [htop, decide_eq_true rfl]
    rfl
  · have habove : w.toNat.testBit i = false :=
      Nat.testBit_lt_two_pow (Nat.lt_of_lt_of_le hhigh (Nat.pow_le_pow_right (by decide) hlt))
    rw [habove, decide_eq_false (Nat.ne_of_lt hlt)]
    rfl

/-- a linear map is zero if it is zero at every word with a single bit -/
theorem Linear.eq_zero (h : Linear f) (hsingle : ∀ i < 64, f (single i) = 0) (w : UInt64) : f w = 0 := by
  have hshort : ∀ n ≤ 64, ∀ w : UInt64, w.toNat < 2 ^ n → f w = 0 := by
    intro n
    induction n with
    | zero =>
      intro _ w hw
      obtain rfl : w = 0 := UInt64.toNat_inj.1 (Nat.lt_one_iff.1 hw)
      exact h.zero
    | succ n ih =>
      intro hn w hw
      rcases Nat.lt_or_ge w.toNat (2 ^ n) with hlow | hlow
      · exact ih (by omega) w hlow
      · have hrest := ih (by omega) (w ^^^ single n) (xor_single_lt hn hlow hw)
        rwa [h, hsingle n hn, UInt64.xor_zero] at hrest
  exact hshort 64 (Nat.le_refl 64) w w.toNat_lt

end

/-! ## the move of a word -/

theorem linear_foldRight (k : UInt64) : Linear fun w => w ^^^ (w >>> k) := by
  intro a b
  show a ^^^ b ^^^ (a ^^^ b) >>> k = a ^^^ a >>> k ^^^ (b ^^^ b >>> k)
  rw [UInt64.shiftRight_xor]
  ac_rfl

theorem linear_foldLeft (k : UInt64) : Linear fun w => w ^^^ (w <<< k) := by
  intro a b
  show a ^^^ b ^^^ (a ^^^ b) <<< k = a ^^^ a <<< k ^^^ (b ^^^ b <<< k)
  rw [UInt64.shiftLeft_xor]
  ac_rfl

theorem linear_step : Linear step :=
  (linear_foldRight 27).comp ((linear_foldLeft 25).comp (linear_foldRight 12))

/-- a word that is its own copy, shifted down, has no bit: the copy is a smaller number -/
theorem foldRight_injective {k : UInt64} (hpos : 0 < k.toNat) (hk : k.toNat < 64) :
    Function.Injective fun w : UInt64 => w ^^^ (w >>> k) := by
  refine (linear_foldRight k).injective fun w hw => ?_
  have hself : w.toNat = w.toNat / 2 ^ k.toNat := by
    conv_lhs => rw [UInt64.xor_eq_zero_iff.1 hw]
    rw [UInt64.toNat_shiftRight, Nat.mod_eq_of_lt hk, Nat.shiftRight_eq_div_pow]
  apply UInt64.toNat_inj.1
  show w.toNat = 0
  by_contra hne
  have hlt := Nat.div_lt_self (Nat.pos_of_ne_zero hne) (Nat.one_lt_two_pow (by omega : k.toNat ≠ 0))
  omega

/-- a word that is its own copy, shifted up, has no bit: its lowest one is not in the copy -/
theorem foldLeft_injective {k : UInt64} (hpos : 0 < k.toNat) (hk : k.toNat < 64) :
    Function.Injective fun w : UInt64 => w ^^^ (w <<< k) := by
  refine (linear_foldLeft k).injective fun w hw => ?_
  have hself : w = w <<< k := UInt64.xor_eq_zero_iff.1 hw
  apply UInt64.toNat_inj.1
  apply Nat.eq_of_testBit_eq
  intro i
  show w.toNat.testBit i = Nat.testBit 0 i
  rw [Nat.zero_testBit]
  induction i using Nat.strong_induction_on with
  | _ i ih =>
    rcases Nat.lt_or_ge i 64 with hi | hi
    · rw [hself, Word.testBit_shiftLeft hk hi]
      rcases Nat.lt_or_ge i k.toNat with hlt | hle
      · rw [decide_eq_false (Nat.not_le_of_lt hlt), Bool.false_and]
      · rw [ih _ (by omega), Bool.and_false]
    · exact Word.testBit_of_le w hi

theorem step_injective : Function.Injective step :=
  (foldRight_injective (k := 27) (by decide) (by decide)).comp
    ((foldLeft_injective (k := 25) (by decide) (by decide)).comp
      (foldRight_injective (k := 12) (by decide) (by decide)))

theorem step_ne_zero {w : UInt64} (h : w ≠ 0) : step w ≠ 0 := by
  intro hzero
  exact h (step_injective (hzero.trans linear_step.zero.symm))

/-! ## the draw of a word -/

/-- the word that a draw was made from -/
def unscramble (w : UInt64) : UInt64 := w * 0x59071D96D81ECD35

theorem unscramble_scramble (w : UInt64) : unscramble (scramble w) = w := by
  rw [unscramble, scramble, UInt64.mul_assoc]
  exact UInt64.mul_one w

theorem scramble_injective : Function.Injective scramble :=
  Function.LeftInverse.injective unscramble_scramble

theorem scramble_ne_zero {w : UInt64} (h : w ≠ 0) : scramble w ≠ 0 := by
  intro hzero
  exact h (scramble_injective hzero)

/-! ## words that would stay -/

/-- the sum of the words from `w` on, where the coefficients say which of them are counted -/
def combine (cs : List Bool) (w : UInt64) : UInt64 :=
  cs.foldr (fun c sum => (if c then w else 0) ^^^ step sum) 0

/-- the coefficients of the recurrence of the move, for 65 words in a row: those of the
characteristic polynomial of the move as a matrix over two elements, the constant term first -/
def relation : List Bool := (List.range 65).map (Nat.testBit 0x10018B73AA7CC9B71)

theorem linear_combine (cs : List Bool) : Linear (combine cs) := by
  induction cs with
  | nil => exact fun a b => UInt64.xor_self.symm
  | cons c cs ih =>
    have hhead : Linear fun w => if c then w else 0 := by
      cases c with
      | false => exact fun a b => UInt64.xor_self.symm
      | true => exact fun a b => rfl
    exact hhead.xor (linear_step.comp ih)

theorem combine_relation (w : UInt64) : combine relation w = 0 := by
  -- the sum keeps exclusive or, so it has to be worked out at the single bits only
  have hsingle : ∀ i < 64, combine relation (single i) = 0 := by decide +kernel
  exact (linear_combine relation).eq_zero hsingle w

/-- whether there are oddly many coefficients -/
def odd (cs : List Bool) : Bool := cs.foldr xor false

theorem odd_relation : odd relation = true := by decide +kernel

/-- a word that stays is added to itself, as often as there are coefficients -/
theorem combine_of_stays {w : UInt64} (h : step w = w) (cs : List Bool) :
    combine cs w = if odd cs then w else 0 := by
  induction cs with
  | nil => rfl
  | cons c cs ih =>
    show (if c then w else 0) ^^^ step (combine cs w) = if c ^^ odd cs then w else 0
    have hstay : step (combine cs w) = combine cs w := by
      rw [ih]
      split
      · exact h
      · exact linear_step.zero
    rw [hstay, ih]
    cases c with
    | false =>
      rw [Bool.false_xor]
      exact UInt64.zero_xor
    | true =>
      cases odd cs with
      | false => exact UInt64.xor_zero
      | true => exact UInt64.xor_self

/-- only zero stays where it is -/
theorem step_eq_self {w : UInt64} : step w = w ↔ w = 0 := by
  constructor
  · intro h
    have hsum := combine_of_stays h relation
    rw [combine_relation, odd_relation, if_pos rfl] at hsum
    exact hsum.symm
  · rintro rfl
    exact linear_step.zero

/-! ## streams -/

instance finite_word : Finite UInt64 :=
  Finite.of_injective UInt64.toFin fun _ _ => UInt64.toFin_inj.1

/-- draws in a row -/
def draws : Nat → Draw (List UInt64)
  | 0 => return []
  | n + 1 => do
    let word ← draw64
    return word :: (← draws n)

/-- the stream is not at the word that never moves -/
def Stream.Alive (s : Stream) : Prop := s.word ≠ 0

theorem alive_ofSeed (seed : UInt64) : (Stream.ofSeed seed).Alive := by
  unfold Stream.Alive Stream.ofSeed
  split
  · decide
  · assumption

theorem Stream.after_succ (s : Stream) (n : Nat) : s.after (n + 1) = (s.after 1).after n := by
  rw [Stream.after_after, Nat.add_comm]

theorem Stream.Alive.after {s : Stream} (h : s.Alive) (n : Nat) : (s.after n).Alive := by
  induction n generalizing s with
  | zero => exact h
  | succ n ih =>
    rw [Stream.after_succ]
    exact ih (step_ne_zero h)

theorem draws_run (s : Stream) (n : Nat) : ∃ words, (draws n).run s = (words, s.after n) ∧
    words.length = n ∧ (s.Alive → ∀ word ∈ words, word ≠ 0) := by
  induction n generalizing s with
  | zero => exact ⟨[], rfl, rfl, fun _ word hword => absurd hword List.not_mem_nil⟩
  | succ n ih =>
    obtain ⟨words, hrun, hlength, hwords⟩ := ih (s.after 1)
    refine ⟨scramble (step s.word) :: words, ?_, ?_, ?_⟩
    · show (scramble (step s.word) :: ((draws n).run (s.after 1)).1, ((draws n).run (s.after 1)).2) = _
      rw [hrun, ← Stream.after_succ]
    · rw [List.length_cons, hlength]
    · intro h
      exact List.forall_mem_cons.2 ⟨scramble_ne_zero (step_ne_zero h), hwords (h.after 1)⟩

theorem after_injective (n : Nat) : Function.Injective fun s : Stream => s.after n := by
  intro s t h
  have hword := step_injective.iterate n (congrArg Stream.word h)
  cases s
  cases t
  exact congrArg Stream.mk hword

/-- every word comes back -/
theorem exists_period (s : Stream) : ∃ p, 0 < p ∧ ∀ n, s.after (n + p) = s.after n := by
  obtain ⟨p, hpos, hperiod⟩ :=
    Function.mem_periodicPts.1 (step_injective.mem_periodicPts s.word)
  refine ⟨p, hpos, fun n => ?_⟩
  have hback : s.after p = s := congrArg Stream.mk hperiod.eq
  rw [Nat.add_comm, ← Stream.after_after, hback]

/-- **Every stream goes round a circle of its own.**  From any seed, zero as well, neither a draw nor
the word behind it is ever zero, and the word moves with every draw.  No two words move to one word or
make one draw.  So two streams that meet have been on one circle all along, and every stream comes
back to where it started. -/
theorem streams_circle :
    (∀ s : Stream, draw64.run s = (scramble (step s.word), s.after 1)) ∧
    (∀ seed n, ∃ words, (draws n).run (Stream.ofSeed seed) = (words, (Stream.ofSeed seed).after n) ∧
      words.length = n ∧ (∀ word ∈ words, word ≠ 0) ∧
      ((Stream.ofSeed seed).after n).word ≠ 0 ∧
      (Stream.ofSeed seed).after (n + 1) ≠ (Stream.ofSeed seed).after n) ∧
    Function.Injective step ∧ Function.Injective scramble ∧
    (∀ (s t : Stream) (m n : Nat), s.after m = t.after (m + n) ↔ s = t.after n) ∧
    ∀ s : Stream, ∃ p, 0 < p ∧ ∀ n, s.after (n + p) = s.after n := by
  refine ⟨draw64_run, fun seed n => ?_, step_injective, scramble_injective, fun s t m n => ?_,
    exists_period⟩
  · have halive := alive_ofSeed seed
    obtain ⟨words, hrun, hlength, hwords⟩ := draws_run (Stream.ofSeed seed) n
    refine ⟨words, hrun, hlength, hwords halive, halive.after n, fun hstays => ?_⟩
    rw [← Stream.after_after] at hstays
    exact halive.after n (step_eq_self.1 (congrArg Stream.word hstays))
  · rw [Nat.add_comm, ← Stream.after_after]
    exact (after_injective m).eq_iff

end Telemetry.Random
