import Telemetry.Word

/-!
# Memory

What is listed before it is used takes one piece of memory, and a piece has fewer bytes than there
are words with a sign that are not negative.

* `Memory.fits`      whether a list of equal items can be set aside at all;
* `Memory.fits_iff`  the bound in bytes;
* `Memory.fits_le`   a shorter list of smaller items fits as well.
-/

namespace Telemetry.Memory

/-- whether memory for `count` items of `size` bytes each can be set aside in one piece -/
def fits (count size : Nat) : Bool := count * size < Word.half

/-- a list fits as long as its bytes can be counted by a word with a sign -/
theorem fits_iff {count size : Nat} : fits count size = true ↔ count * size < Word.half := by
  simp [fits]

theorem fits_le {m n k l : Nat} (h : fits n l = true) (hm : m ≤ n) (hk : k ≤ l) :
    fits m k = true := by
  rw [fits_iff] at h ⊢
  exact Nat.lt_of_le_of_lt (Nat.mul_le_mul hm hk) h

end Telemetry.Memory
