import Telemetry.Output.Writer

/-!
# A sink with a limit

What a buffer hands to a sink that takes bytes up to a limit and fails from there on.

* `Begins part all`      `part` is the first bytes of `all`;
* `Sink.Within limit s`  a sink that has this limit and keeps it; a write is whole exactly where the
                         bytes fit (`Within.write_whole_iff`);
* `Buffered.sinks`       the sink after each write to it, while bytes are written to the buffer; the
                         last of these is the one that is left (`sink_write`);
* `Buffered.pending_write_le`  no more is pending than the buffer holds;
* `Buffered.Holds`       the sink keeps its limit, and what has been accepted begins some bytes;
* `Buffered.Goes`        the three ways a write to the buffer can go;
* `Buffered.Puts`        a write that leaves only first bytes of some bytes, in the sink at any moment
                         and in the buffer, and that fails only where these are over the limit.
                         Every write is one, for the bytes accepted before and its own (`puts_write`).
-/

namespace Telemetry

/-- `part` is the first bytes of `all` -/
def Begins (part all : ByteArray) : Prop := ∃ rest, part ++ rest = all

namespace Begins
variable {a b c : ByteArray}

theorem refl (a : ByteArray) : Begins a a := ⟨.empty, ByteArray.append_empty⟩

theorem append (a b : ByteArray) : Begins a (a ++ b) := ⟨b, rfl⟩

theorem trans (h : Begins a b) (h' : Begins b c) : Begins a c := by
  obtain ⟨x, rfl⟩ := h
  obtain ⟨y, rfl⟩ := h'
  exact ⟨x ++ y, ByteArray.append_assoc.symm⟩

theorem append_left (c : ByteArray) (h : Begins a b) : Begins (c ++ a) (c ++ b) := by
  obtain ⟨x, rfl⟩ := h
  exact ⟨x, ByteArray.append_assoc⟩

theorem extract (a : ByteArray) (n : Nat) : Begins (a.extract 0 n) a := by
  refine ⟨a.extract n (max n a.size), ?_⟩
  rw [ByteArray.extract_append_extract, Nat.zero_min, ← Nat.max_assoc, Nat.max_self,
    ByteArray.extract_zero_max_size]

theorem size_le (h : Begins a b) : a.size ≤ b.size := by
  obtain ⟨x, rfl⟩ := h
  rw [ByteArray.size_append]
  exact Nat.le_add_right _ _

end Begins

/-! ## the sink -/

namespace Sink
variable {limit : Nat} {s : Sink}

theorem begins_write (s : Sink) (chunk : ByteArray) :
    Begins (s.write chunk).1.bytes (s.bytes ++ chunk) := by
  rw [bytes_write]
  exact (Begins.extract chunk _).append_left s.bytes

/-- a sink with a limit that has taken no more than that -/
structure Within (limit : Nat) (s : Sink) : Prop where
  limit_eq : s.limit = some limit
  size_le : s.bytes.size ≤ limit

namespace Within

theorem room_eq (h : s.Within limit) (n : Nat) : s.room n = min n (limit - s.bytes.size) := by
  rw [room, h.limit_eq]

theorem write_whole_iff (h : s.Within limit) (chunk : ByteArray) :
    (s.write chunk).2 = true ↔ (s.bytes ++ chunk).size ≤ limit := by
  have hsize := h.size_le
  rw [write_whole, h.room_eq, ByteArray.size_append]
  omega

theorem write (h : s.Within limit) (chunk : ByteArray) : (s.write chunk).1.Within limit where
  limit_eq := by rw [limit_write, h.limit_eq]
  size_le := by
    have hsize := h.size_le
    rw [bytes_write, h.room_eq, ByteArray.size_append, ByteArray.size_extract]
    omega

theorem limit_lt (h : s.Within limit) {chunk : ByteArray} (hcut : (s.write chunk).2 = false) :
    limit < (s.bytes ++ chunk).size := by
  refine Nat.lt_of_not_le ?_
  intro hle
  rw [(h.write_whole_iff chunk).2 hle] at hcut
  exact Bool.false_ne_true hcut.symm

end Within

end Sink

/-! ## the buffer -/

namespace Buffered
variable {limit : Nat} {b : Buffered} {all bytes : ByteArray}

/-- the sink after each write to it, as bytes are stored -/
def storeSinks (b : Buffered) (bytes : ByteArray) : List Sink :=
  if bytes.size < b.capacity then [] else [(b.sink.write bytes).1]

/-- the sink after each write to it, as bytes are written -/
def sinks (b : Buffered) (bytes : ByteArray) : List Sink :=
  if b.pending.size + bytes.size ≤ b.capacity then b.storeSinks bytes
  else
    match b.flush with
    | (b, true) => b.sink :: b.storeSinks bytes
    | (b, false) => [b.sink]

/-- the ways a write can go, with the sink after each write to it -/
inductive Goes (b : Buffered) (bytes : ByteArray) : Buffered × Bool → List Sink → Prop where
  /-- the bytes fit beside those that are pending -/
  | fits (hfit : b.pending.size + bytes.size ≤ b.capacity)
    (hp : bytes.size < b.capacity ∨ b.pending = .empty) :
    Goes b bytes (b.store bytes) (b.storeSinks bytes)
  /-- the pending bytes are handed over first -/
  | flushed {b' : Buffered} (hflush : b.flush = (b', true)) (hp : b'.pending = .empty) :
    Goes b bytes (b'.store bytes) (b'.sink :: b'.storeSinks bytes)
  /-- the sink does not take all the pending bytes -/
  | cut {b' : Buffered} (hflush : b.flush = (b', false)) : Goes b bytes (b', false) [b'.sink]

theorem goes_write (b : Buffered) (bytes : ByteArray) :
    b.Goes bytes (b.write bytes) (b.sinks bytes) := by
  unfold write sinks
  by_cases hfit : b.pending.size + bytes.size ≤ b.capacity
  · rw [if_pos hfit, if_pos hfit]
    refine .fits hfit ?_
    by_cases hsize : bytes.size < b.capacity
    · exact .inl hsize
    · exact .inr (ByteArray.size_eq_zero_iff.1 (by omega))
  · rw [if_neg hfit, if_neg hfit]
    have hp := pending_flush (b := b)
    generalize hflush : b.flush = flushed at hp ⊢
    obtain ⟨b', whole⟩ := flushed
    cases whole with
    | true => exact .flushed hflush (hp rfl)
    | false => exact .cut hflush

theorem sink_store (b : Buffered) (bytes : ByteArray) :
    (b.store bytes).1.sink = (b.storeSinks bytes).getLastD b.sink := by
  unfold store storeSinks
  split <;> rfl

/-- the sink that a write leaves is the last of those seen while it is made -/
theorem sink_write (b : Buffered) (bytes : ByteArray) :
    (b.write bytes).1.sink = (b.sinks bytes).getLastD b.sink := by
  have hgoes := b.goes_write bytes
  generalize b.write bytes = out, b.sinks bytes = sinks at hgoes ⊢
  cases hgoes with
  | fits => exact b.sink_store bytes
  | @flushed b' =>
    rw [List.getLastD_cons]
    exact b'.sink_store bytes
  | cut => rfl

theorem sink_write_mem (b : Buffered) (bytes : ByteArray) :
    (b.write bytes).1.sink ∈ b.sink :: b.sinks bytes := by
  rw [sink_write]
  exact List.getLastD_mem_cons

/-! ### what is pending -/

theorem pending_flush_le (b : Buffered) : b.flush.1.pending.size ≤ b.pending.size := by
  show (b.pending.extract _ b.pending.size).size ≤ b.pending.size
  rw [ByteArray.size_extract]
  omega

theorem capacity_store (b : Buffered) (bytes : ByteArray) :
    (b.store bytes).1.capacity = b.capacity := by
  unfold store
  split <;> rfl

theorem capacity_write (b : Buffered) (bytes : ByteArray) :
    (b.write bytes).1.capacity = b.capacity := by
  have hgoes := b.goes_write bytes
  have hflush : b.flush.1.capacity = b.capacity := rfl
  generalize b.write bytes = out, b.sinks bytes = sinks at hgoes
  cases hgoes with
  | fits => exact b.capacity_store bytes
  | @flushed b' h =>
    rw [h] at hflush
    exact (b'.capacity_store bytes).trans hflush
  | cut h =>
    rwa [h] at hflush

theorem pending_store_le
    (h : b.pending.size + bytes.size ≤ b.capacity ∨ b.pending = .empty) :
    (b.store bytes).1.pending.size ≤ b.capacity := by
  unfold store
  by_cases hsize : bytes.size < b.capacity
  · rw [if_pos hsize]
    show (b.pending ++ bytes).size ≤ b.capacity
    rw [ByteArray.size_append]
    rcases h with hfit | hempty
    · exact hfit
    · rw [hempty, ByteArray.size_empty]
      omega
  · rw [if_neg hsize]
    show b.pending.size ≤ b.capacity
    rcases h with hfit | hempty
    · omega
    · rw [hempty]
      exact Nat.zero_le _

/-- no more is pending than the buffer holds -/
theorem pending_write_le (h : b.pending.size ≤ b.capacity) (bytes : ByteArray) :
    (b.write bytes).1.pending.size ≤ b.capacity := by
  have hgoes := b.goes_write bytes
  have hcapacity : b.flush.1.capacity = b.capacity := rfl
  have hflush := b.pending_flush_le
  generalize b.write bytes = out, b.sinks bytes = sinks at hgoes
  cases hgoes with
  | fits hfit => exact pending_store_le (.inl hfit)
  | @flushed b' hflushed hp =>
    rw [hflushed] at hcapacity
    rw [← hcapacity]
    exact pending_store_le (.inr hp)
  | cut hflushed =>
    rw [hflushed] at hflush
    exact Nat.le_trans hflush h

/-! ### what is kept -/

/-- the sink keeps its limit, and what has been accepted begins `all` -/
structure Holds (limit : Nat) (all : ByteArray) (b : Buffered) : Prop where
  within : b.sink.Within limit
  accepted : Begins b.accepted all

namespace Holds

/-- the sink has the first of the accepted bytes -/
theorem sink (h : Holds limit all b) : Begins b.sink.bytes all :=
  (Begins.append b.sink.bytes b.pending).trans h.accepted

theorem flush (h : Holds limit all b) : Holds limit all b.flush.1 where
  within := h.within.write b.pending
  accepted := by
    rw [accepted_flush]
    exact h.accepted

end Holds

theorem flush_whole_iff (h : b.sink.Within limit) :
    b.flush.2 = true ↔ b.accepted.size ≤ limit := h.write_whole_iff b.pending

theorem limit_lt_of_flush (h : b.sink.Within limit) (hcut : b.flush.2 = false) :
    limit < b.accepted.size := h.limit_lt hcut

/-- a write that puts first bytes of `all` in the sink and the buffer, and that fails only where
`all` is over the limit -/
structure Puts (limit : Nat) (all : ByteArray) (out : Buffered × Bool) (sinks : List Sink) :
    Prop where
  holds : Holds limit all out.1
  seen : ∀ s ∈ sinks, Begins s.bytes all
  cut : out.2 = false → limit < all.size

theorem puts_store (h : b.sink.Within limit) (hp : bytes.size < b.capacity ∨ b.pending = .empty) :
    Puts limit (b.accepted ++ bytes) (b.store bytes) (b.storeSinks bytes) := by
  unfold store storeSinks
  by_cases hsize : bytes.size < b.capacity
  · rw [if_pos hsize, if_pos hsize]
    have haccepted : b.sink.bytes ++ (b.pending ++ bytes) = b.accepted ++ bytes :=
      ByteArray.append_assoc.symm
    refine ⟨⟨h, ⟨.empty, ?_⟩⟩, by simp, by simp⟩
    rw [ByteArray.append_empty]
    exact haccepted
  · rw [if_neg hsize, if_neg hsize]
    have hempty : b.pending = .empty := hp.resolve_left hsize
    have haccepted : b.accepted = b.sink.bytes := by
      rw [accepted, hempty, ByteArray.append_empty]
    have hbegins := b.sink.begins_write bytes
    rw [haccepted]
    refine ⟨⟨h.write bytes, ?_⟩, ?_, h.limit_lt⟩
    · show Begins ((b.sink.write bytes).1.bytes ++ b.pending) (b.sink.bytes ++ bytes)
      rw [hempty, ByteArray.append_empty]
      exact hbegins
    · intro s hs
      obtain rfl := List.mem_singleton.1 hs
      exact hbegins

theorem puts_write (h : b.sink.Within limit) (bytes : ByteArray) :
    Puts limit (b.accepted ++ bytes) (b.write bytes) (b.sinks bytes) := by
  have hgoes := b.goes_write bytes
  generalize b.write bytes = out, b.sinks bytes = sinks at hgoes ⊢
  -- handing over keeps what was accepted, so whatever follows starts from the same bytes
  have hnow : Holds limit (b.accepted ++ bytes) b := ⟨h, Begins.append _ _⟩
  have hflushed := hnow.flush
  have haccepted := accepted_flush b
  have hlt := limit_lt_of_flush h
  cases hgoes with
  | fits hfit hp => exact puts_store h hp
  | @flushed b' hflush hp =>
    rw [hflush] at hflushed haccepted
    have hput : Puts limit (b'.accepted ++ bytes) (b'.store bytes) (b'.storeSinks bytes) :=
      puts_store hflushed.within (.inr hp)
    rw [haccepted] at hput
    refine ⟨hput.holds, ?_, hput.cut⟩
    intro s hs
    rcases List.mem_cons.1 hs with rfl | hs
    · exact hflushed.sink
    · exact hput.seen s hs
  | @cut b' hflush =>
    rw [hflush] at hflushed hlt
    refine ⟨hflushed, ?_, ?_⟩
    · intro s hs
      obtain rfl := List.mem_singleton.1 hs
      exact hflushed.sink
    · intro _
      have hbefore : limit < b.accepted.size := hlt rfl
      rw [ByteArray.size_append]
      omega

end Buffered

end Telemetry
