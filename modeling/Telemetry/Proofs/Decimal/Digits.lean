import Telemetry.Decimal.Natural

/-!
# Decimal text read back

* `value_digits`           the digits of a number stand for it;
* `readNatural?_digits`    and are read as it;
* `readDigits?_padded`     and so they are with zeros in front;
* `readInteger?_signed`    a whole number is read back with its sign;
* `digits_inj`, `padded_inj`  two numbers of one text are one number;
* `mem_digits`, `mem_padded`, `mem_signed`  the characters of such a text.
-/

namespace Telemetry.Decimal

theorem digits_ne_nil (n : Nat) : digits n ≠ [] := Nat.toDigits_ne_nil

theorem mem_digits {n : Nat} {c : Char} (h : c ∈ digits n) : c.isDigit = true :=
  Nat.isDigit_of_mem_toDigits (by decide) (by decide) h

theorem mem_signed {i : Int} {c : Char} (h : c ∈ signed i) : c.isDigit = true ∨ c = '-' := by
  unfold signed at h
  split at h
  · rcases List.mem_cons.1 h with rfl | h
    · exact .inr rfl
    · exact .inl (mem_digits h)
  · exact .inl (mem_digits h)

theorem value_digits (n : Nat) : value (digits n) = n :=
  Nat.ofDigitChars_toDigits (by decide) (by decide)

theorem readDigits?_of_isDigit {ds : List Char} (hne : ds ≠ []) (h : ∀ c ∈ ds, c.isDigit = true) :
    readDigits? ds = some (value ds) := by
  have hdigits : (!ds.isEmpty && ds.all Char.isDigit) = true := by
    rw [Bool.and_eq_true, Bool.not_eq_true', List.isEmpty_eq_false_iff, List.all_eq_true]
    exact ⟨hne, h⟩
  rw [readDigits?, if_pos hdigits]

theorem readDigits?_digits (n : Nat) : readDigits? (digits n) = some n := by
  rw [readDigits?_of_isDigit (digits_ne_nil n) fun c hc => mem_digits hc, value_digits]

theorem digits_inj {m n : Nat} (h : digits m = digits n) : m = n := by
  rw [← value_digits m, h, value_digits]

/-! ## zeros in front -/

theorem padded_ne_nil (width n : Nat) : padded width n ≠ [] :=
  List.append_ne_nil_of_right_ne_nil _ (digits_ne_nil n)

theorem mem_padded {width n : Nat} {c : Char} (h : c ∈ padded width n) : c.isDigit = true := by
  rcases List.mem_append.1 h with h | h
  · rw [List.eq_of_mem_replicate h]
    rfl
  · exact mem_digits h

/-- zeros in front stand for nothing -/
theorem value_padded (width n : Nat) : value (padded width n) = n := by
  unfold padded
  induction width - (digits n).length with
  | zero => exact value_digits n
  | succ k ih => exact ih

theorem readDigits?_padded (width n : Nat) : readDigits? (padded width n) = some n := by
  rw [readDigits?_of_isDigit (padded_ne_nil width n) fun c hc => mem_padded hc, value_padded]

theorem padded_inj {width m n : Nat} (h : padded width m = padded width n) : m = n := by
  rw [← value_padded width m, h, value_padded]

/-! ## signs -/

theorem readNatural?_digits (n : Nat) : readNatural? (digits n) = some n := by
  unfold readNatural?
  split
  · rename_i ds hplus
    have hdigit : Char.isDigit '+' = true := mem_digits (hplus ▸ List.mem_cons_self)
    exact absurd hdigit (by decide)
  · exact readDigits?_digits n

theorem readInteger?_signed (i : Int) : readInteger? (signed i) = some i := by
  unfold signed
  split
  · rename_i hneg
    rw [readInteger?, readDigits?_digits]
    show some (-(i.natAbs : Int)) = some i
    rw [Int.ofNat_natAbs_of_nonpos (Int.le_of_lt hneg), Int.neg_neg]
  · rename_i hpos
    unfold readInteger?
    split
    · rename_i ds hminus
      have hdigit : Char.isDigit '-' = true := mem_digits (hminus ▸ List.mem_cons_self)
      exact absurd hdigit (by decide)
    · rw [readNatural?_digits, Option.map_some]
      show some (i.natAbs : Int) = some i
      rw [Int.natAbs_of_nonneg (Int.not_lt.1 hpos)]

end Telemetry.Decimal
