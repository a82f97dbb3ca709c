/-!
# Machine words

Counts are words of 64 bits without a sign, and times are words of 64 bits with one.

* `Word.half`       the number of words with a sign that are not negative;
* `Word.signed?`    the word with a sign that stands for an integer, if there is one;
* `Word.add?`       the sum of two words without a sign, if it is one.
-/

namespace Telemetry.Word

def half : Nat := 9223372036854775808

/-- the word with a sign that stands for an integer, if there is one -/
def signed? (i : Int) : Option Int64 :=
  if -(half : Int) ≤ i ∧ i < (half : Int) then some (Int64.ofInt i) else none

/-- an integer has at most one word, which stands for it -/
theorem signed?_eq_some {i : Int} {w : Int64} : signed? i = some w ↔ w.toInt = i := by
  unfold signed? half
  constructor
  · intro h
    split at h
    · rename_i hb
      obtain rfl := Option.some.inj h
      exact Int64.toInt_ofInt_of_le (by omega) (by omega)
    · simp at h
  · rintro rfl
    have lower := w.le_toInt
    have upper := w.toInt_lt
    rw [if_pos (by omega), Int64.ofInt_toInt]

/-- an integer within the bounds has a word -/
theorem exists_signed? {i : Int} (hlower : -9223372036854775808 ≤ i)
    (hupper : i < 9223372036854775808) : ∃ w, signed? i = some w := by
  unfold signed? half
  rw [if_pos ⟨hlower, hupper⟩]
  exact ⟨_, rfl⟩

theorem signed?_eq_none_iff {i : Int} :
    signed? i = none ↔ i < -9223372036854775808 ∨ 9223372036854775808 ≤ i := by
  unfold signed? half
  split <;> simp <;> omega

/-- the sum of two words, if it is a word -/
def add? (a b : UInt64) : Option UInt64 :=
  if a.toNat + b.toNat < UInt64.size then some (a + b) else none

theorem add?_eq_some {a b : UInt64} (h : a.toNat + b.toNat < UInt64.size) :
    add? a b = some (a + b) :=
  if_pos h

theorem add?_eq_none {a b : UInt64} (h : UInt64.size ≤ a.toNat + b.toNat) : add? a b = none :=
  if_neg (Nat.not_lt_of_le h)

end Telemetry.Word
