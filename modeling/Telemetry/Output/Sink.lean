/-!
# Sinks

A sink takes bytes in order, either without end or up to a limit.

* `Sink.write`  takes as many of the given bytes as it has room for, and says whether these were
                all; nothing at all can always be written;
* `Sink.text`   the bytes taken as text.

A write adds the first bytes of what is given, as many as there is room for (`bytes_write`), and it
is whole exactly where that is all of them (`write_whole`).  To write two chunks in one is to write
the first and then, if it was whole, the second (`write_append`, `write_append_of_cut`).
-/

namespace Telemetry

/-- what has been taken, and how much may be taken at most -/
structure Sink where
  limit : Option Nat := none
  bytes : ByteArray := .empty

namespace Sink

/-- the text with which a full sink fails -/
def fullText : String := "sink full"

/-- the number of bytes that can still be taken; an unlimited sink has room for any number `n` -/
def room (s : Sink) (n : Nat) : Nat :=
  match s.limit with
  | some limit => min n (limit - s.bytes.size)
  | none => n

/-- takes as many bytes as there is room for, and says whether these were all -/
def write (s : Sink) (chunk : ByteArray) : Sink × Bool :=
  let n := s.room chunk.size
  if n = chunk.size then ({ s with bytes := s.bytes ++ chunk }, true)
  else ({ s with bytes := s.bytes ++ chunk.extract 0 n }, false)

/-- a byte that continues a character -/
def continues (b : UInt8) : Bool := b &&& 0xC0 == 0x80

/-- the bytes up to a character that the limit has cut -/
def wholeCharacters (bytes : List UInt8) : List UInt8 :=
  ((bytes.reverse.dropWhile continues).drop 1).reverse

/-- the bytes as text; a character that the limit has cut shows as a replacement character -/
def text (s : Sink) : String :=
  match String.fromUTF8? s.bytes with
  | some t => t
  | none =>
    let whole := (wholeCharacters s.bytes.toList).toByteArray
    (String.fromUTF8? whole).getD "" ++ "\uFFFD"

/-! ## equations -/

theorem room_le (s : Sink) (n : Nat) : s.room n ≤ n := by
  unfold room
  split
  · exact Nat.min_le_left _ _
  · exact Nat.le_refl _

@[simp] theorem room_unlimited (bytes : ByteArray) (n : Nat) : (⟨none, bytes⟩ : Sink).room n = n :=
  rfl

theorem write_eq (s : Sink) (chunk : ByteArray) :
    s.write chunk = (⟨s.limit, s.bytes ++ chunk.extract 0 (s.room chunk.size)⟩,
      decide (s.room chunk.size = chunk.size)) := by
  unfold write
  by_cases h : s.room chunk.size = chunk.size
  · rw [if_pos h, h, ByteArray.extract_zero_size, decide_eq_true rfl]
  · rw [if_neg h, decide_eq_false h]

theorem bytes_write (s : Sink) (chunk : ByteArray) :
    (s.write chunk).1.bytes = s.bytes ++ chunk.extract 0 (s.room chunk.size) := by
  rw [write_eq]

@[simp] theorem limit_write (s : Sink) (chunk : ByteArray) :
    (s.write chunk).1.limit = s.limit := by
  rw [write_eq]

theorem write_whole (s : Sink) (chunk : ByteArray) :
    (s.write chunk).2 = true ↔ s.room chunk.size = chunk.size := by
  rw [write_eq, decide_eq_true_iff]

@[simp] theorem write_empty (s : Sink) : s.write .empty = (s, true) := by
  have hroom : s.room ByteArray.empty.size = ByteArray.empty.size := Nat.le_zero.1 (s.room_le 0)
  rw [write, if_pos hroom, ByteArray.append_empty]

/-- the room behind bytes that fit -/
theorem room_add {s : Sink} {a : ByteArray} (h : s.room a.size = a.size) (n : Nat) :
    s.room (a.size + n) = a.size + (⟨s.limit, s.bytes ++ a⟩ : Sink).room n := by
  unfold room at h ⊢
  cases hlimit : s.limit with
  | none => rfl
  | some limit =>
    rw [hlimit] at h
    simp only [ByteArray.size_append] at h ⊢
    omega

theorem room_add_of_ne {s : Sink} {m : Nat} (h : s.room m ≠ m) (n : Nat) :
    s.room (m + n) = s.room m := by
  unfold room at h ⊢
  cases hlimit : s.limit with
  | none =>
    rw [hlimit] at h
    exact absurd rfl h
  | some limit =>
    rw [hlimit] at h
    simp only at h ⊢
    omega

theorem write_append {s : Sink} {a : ByteArray} (h : (s.write a).2 = true) (b : ByteArray) :
    s.write (a ++ b) = (s.write a).1.write b := by
  rw [write_whole] at h
  have hroom := room_add h b.size
  have hfirst : a.extract 0 (a.size + (⟨s.limit, s.bytes ++ a⟩ : Sink).room b.size) = a := by
    rw [← Nat.max_eq_left (Nat.le_add_right a.size _), ByteArray.extract_zero_max_size]
  rw [write_eq s a, h, ByteArray.extract_zero_size, write_eq, write_eq, ByteArray.size_append, hroom,
    ByteArray.extract_append, Nat.zero_sub, Nat.add_sub_cancel_left, ByteArray.append_assoc, hfirst]
  simp only [Nat.add_right_inj]

/-- where bytes do not fit, what follows them changes nothing -/
theorem write_append_of_cut {s : Sink} {a : ByteArray} (h : (s.write a).2 = false) (b : ByteArray) :
    s.write (a ++ b) = s.write a := by
  have hne : s.room a.size ≠ a.size := by
    intro hroom
    rw [← write_whole, h] at hroom
    exact Bool.false_ne_true hroom
  have hroom := room_add_of_ne hne b.size
  have hle := s.room_le a.size
  rw [write_eq, write_eq, ByteArray.size_append, hroom, ByteArray.extract_append, Nat.zero_sub,
    Nat.sub_eq_zero_of_le hle, ByteArray.extract_same, ByteArray.append_empty]
  rw [decide_eq_false hne, decide_eq_false (by omega)]

end Sink

end Telemetry
