import Telemetry.Memory
import Telemetry.Output.Format
import Telemetry.Output.Sink

/-!
# Writers

A writer hands whole batches of rows to a sink through a buffer, and counts what it has handed over.

* `Buffered`          a sink behind a buffer: small writes wait in the buffer, and a write that is
                      as large as the buffer goes straight to the sink;
* `Writer.writeBatch` one batch, counted only if it was taken;
* `Buffered.accepted` the bytes in the sink and those that are pending: handing over changes nothing
                      of them, and a write adds its bytes (`accepted_flush`, `accepted_write`);
* `Filler`            what fills points: it fills a point, or says that there is no row any more;
* `RowSource`         where rows come from, and `Filler.reused` the source that has one point filled
                      again and again, and resets it every time;
* `Writer.writeNext`  the next batch of rows, and a call after it;
* `Writer.writeRows`  all rows in batches of a given size;
* `Writer.writeRows?` the same, unless there is no memory for a batch.
-/

namespace Telemetry

/-! ## the buffer -/

/-- a sink behind a buffer -/
structure Buffered where
  capacity : Nat
  pending : ByteArray := .empty
  sink : Sink

namespace Buffered

/-- hands the pending bytes to the sink; bytes that it does not take stay pending -/
def flush (b : Buffered) : Buffered × Bool :=
  let n := b.sink.room b.pending.size
  let (sink, whole) := b.sink.write b.pending
  ({ b with pending := b.pending.extract n b.pending.size, sink := sink }, whole)

/-- puts bytes into a buffer that has room, or straight into the sink if they fill a whole buffer -/
def store (b : Buffered) (bytes : ByteArray) : Buffered × Bool :=
  if bytes.size < b.capacity then ({ b with pending := b.pending ++ bytes }, true)
  else
    let (sink, whole) := b.sink.write bytes
    ({ b with sink := sink }, whole)

/-- writes bytes; where they do not fit beside the pending ones, these are handed over first -/
def write (b : Buffered) (bytes : ByteArray) : Buffered × Bool :=
  if b.pending.size + bytes.size ≤ b.capacity then b.store bytes
  else
    match b.flush with
    | (b, true) => b.store bytes
    | (b, false) => (b, false)

/-! ### what has been accepted -/

/-- the bytes that have been accepted: those in the sink, then those that are pending -/
def accepted (b : Buffered) : ByteArray := b.sink.bytes ++ b.pending

theorem accepted_flush (b : Buffered) : b.flush.1.accepted = b.accepted := by
  have h := b.sink.room_le b.pending.size
  simp only [flush, accepted, Sink.bytes_write, ByteArray.append_assoc,
    ByteArray.extract_append_extract]
  rw [Nat.zero_min, Nat.max_eq_right h, ByteArray.extract_zero_size]

/-- after handing over everything nothing is pending -/
theorem pending_flush {b : Buffered} (h : b.flush.2 = true) : b.flush.1.pending = .empty := by
  have hw : (b.sink.write b.pending).2 = true := h
  rw [Sink.write_whole] at hw
  simp [flush, hw]

/-- bytes that a buffer without pending ones has taken are accepted -/
theorem accepted_store {b : Buffered} {bytes : ByteArray} (h : (b.store bytes).2 = true)
    (hp : bytes.size < b.capacity ∨ b.pending = .empty) :
    (b.store bytes).1.accepted = b.accepted ++ bytes := by
  unfold store at h ⊢
  split
  · simp [accepted, ByteArray.append_assoc]
  · rename_i hs
    rw [if_neg hs] at h
    have he : b.pending = .empty := hp.resolve_left hs
    have hw : (b.sink.write bytes).2 = true := h
    rw [Sink.write_whole] at hw
    simp [accepted, he, Sink.bytes_write, hw, ByteArray.extract_zero_size]

/-- bytes that have been written are accepted after all earlier ones -/
theorem accepted_write {b : Buffered} {bytes : ByteArray} (h : (b.write bytes).2 = true) :
    (b.write bytes).1.accepted = b.accepted ++ bytes := by
  unfold write at h ⊢
  split at h
  · rename_i hfit
    rw [if_pos hfit]
    refine accepted_store h ?_
    by_cases hs : bytes.size < b.capacity
    · exact .inl hs
    · exact .inr (ByteArray.size_eq_zero_iff.1 (by omega))
  · rename_i hfit
    rw [if_neg hfit]
    split at h
    · rename_i b' hflush
      have hp := pending_flush (b := b) (by rw [hflush])
      have ha := accepted_flush b
      simp only [hflush] at hp ha ⊢
      rw [accepted_store h (.inr hp), ha]
    · simp at h

end Buffered

/-! ## the writer -/

/-- what a writer has handed over -/
structure WriteStats where
  points : UInt64 := 0
  batches : UInt64 := 0
  bytes : UInt64 := 0
deriving DecidableEq, Repr

/-- the counts after one more batch -/
def WriteStats.add (s : WriteStats) (points : UInt64) (bytes : Nat) : WriteStats :=
  ⟨s.points + points, s.batches + 1, s.bytes + bytes.toUInt64⟩

/-- a format, a buffered sink and the counts -/
structure Writer where
  out : Buffered
  format : Format
  stats : WriteStats := {}

namespace Writer

/-- the size of a writer's buffer -/
def capacity : Nat := 1048576

/-- a writer to a sink -/
def new (sink : Sink) (format : Format) : Writer :=
  { out := { capacity := capacity, sink := sink }, format := format }

/-- the error of a full sink -/
def full : Fault := .output Sink.fullText

/-- the bytes that are set aside for each row of a batch -/
def bytesPerRow : Nat := 128

/-- whether memory for a batch of `size` rows can be set aside; a size of zero counts as one -/
def hasRoom (size : Nat) : Bool := Memory.fits (max size 1) bytesPerRow

/-- writes a batch of encoded rows; an empty batch is not counted -/
def writeBatch (w : Writer) (batch : ByteArray) (points : UInt64) : Except Fault Unit × Writer :=
  if batch.isEmpty then (.ok (), w)
  else
    match w.out.write batch with
    | (out, true) => (.ok (), { w with out := out, stats := w.stats.add points batch.size })
    | (out, false) => (.error full, { w with out := out })

/-- hands over what is pending -/
def flush (w : Writer) : Except Fault Unit × Writer :=
  let (out, whole) := w.out.flush
  (if whole then .ok () else .error full, { w with out := out })

/-- the sink after the writer is given up, which hands over what is pending -/
def close (w : Writer) : Sink := w.out.flush.1.sink

end Writer

/-! ## rows -/

/-- fills a point from a state, or says that there is no row any more; a filler that gives no answer
is cut off -/
abbrev Filler (σ : Type) := Point → σ → Option (Bool × Point × σ)

/-- the next row, if there is one, and the source after it; no answer cuts the run off -/
abbrev RowSource (τ : Type) := τ → Option (Option Point × τ)

/-- the rows of a filler: it is handed one point again and again, which is reset before each call -/
def Filler.reused {σ : Type} (fill : Filler σ) : RowSource (Point × σ) := fun (p, state) =>
  match fill p.reset state with
  | some (true, p, state) => some (some p, p, state)
  | some (false, p, state) => some (none, p, state)
  | none => none

/-- what is called after a batch looks at the state and not at the point -/
def beside {σ : Type} (onBatch : WriteStats → σ → σ) : WriteStats → Point × σ → Point × σ :=
  fun stats (p, state) => (p, onBatch stats state)

/-- rows that have been encoded, how many these are, and whether there may be more -/
structure Batch (τ : Type) where
  text : String
  rows : Nat
  more : Bool
  state : τ

namespace Batch

variable {τ : Type}

/-- adds up to a number of rows to a batch -/
def collect (source : RowSource τ) (format : Format) : Nat → Batch τ → Option (Batch τ)
  | 0, b => some b
  | n + 1, b =>
    match source b.state with
    | some (some p, state) =>
      collect source format n ⟨b.text ++ format.encode p, b.rows + 1, true, state⟩
    | some (none, state) => some { b with more := false, state := state }
    | none => none

/-- the next batch of at most `size` rows -/
def next (source : RowSource τ) (format : Format) (size : Nat) (state : τ) : Option (Batch τ) :=
  collect source format size ⟨"", 0, true, state⟩

end Batch

/-- what a run of rows came to -/
structure Written (τ : Type) where
  /-- the number of rows written, or why the run ended early -/
  result : Except Fault Nat
  writer : Writer
  state : τ

/-- a run with another state in the end -/
def Written.map {τ σ : Type} (f : τ → σ) (out : Written τ) : Written σ :=
  ⟨out.result, out.writer, f out.state⟩

namespace Writer

variable {σ τ : Type}

/-- writes the next batch of at most `size` rows and calls `onBatch`; the second part of the answer
says whether there may be further rows -/
def writeNext (w : Writer) (source : RowSource τ) (onBatch : WriteStats → τ → τ) (size : Nat)
    (state : τ) : Option (Written τ × Bool) :=
  (Batch.next source w.format size state).map fun batch =>
    if batch.rows = 0 then (⟨.ok 0, w, batch.state⟩, false)
    else
      match w.writeBatch batch.text.toUTF8 batch.rows.toUInt64 with
      | (.error e, w) => (⟨.error e, w, batch.state⟩, false)
      | (.ok (), w) => (⟨.ok batch.rows, w, onBatch w.stats batch.state⟩, batch.more)

/-- writes batches until there is no row any more, for at most `limit` batches; `rows` have been
written before -/
def writeBatches (source : RowSource τ) (onBatch : WriteStats → τ → τ) (size : Nat) :
    (limit : Nat) → (rows : Nat) → Writer → τ → Option (Written τ)
  | 0, rows, w, state => some ⟨.ok rows, w, state⟩
  | limit + 1, rows, w, state =>
    match w.writeNext source onBatch size state with
    | some (⟨.error e, w, state⟩, _) => some ⟨.error e, w, state⟩
    | some (⟨.ok n, w, state⟩, true) => writeBatches source onBatch size limit (rows + n) w state
    | some (⟨.ok n, w, state⟩, false) => some ⟨.ok (rows + n), w, state⟩
    | none => none

/-- writes all rows of a filler, if these are at most `most`, in batches of `size` rows; a size of
zero counts as one.  No answer is a run that is cut off. -/
def writeRows (w : Writer) (fill : Filler σ) (onBatch : WriteStats → σ → σ) (size most : Nat)
    (state : σ) : Option (Written σ) :=
  (writeBatches fill.reused (beside onBatch) (max size 1) (most + 1) 0 w ({}, state)).map
    (Written.map Prod.snd)

/-- writes all rows of a filler, as `writeRows` does; where there is no memory for a batch, no row is
asked for, and there is no answer either -/
def writeRows? (w : Writer) (fill : Filler σ) (onBatch : WriteStats → σ → σ) (size most : Nat)
    (state : σ) : Option (Written σ) :=
  if hasRoom size then w.writeRows fill onBatch size most state else none

end Writer

end Telemetry
