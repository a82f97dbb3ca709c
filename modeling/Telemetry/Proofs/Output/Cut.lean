import Telemetry.Proofs.Output.Batches
import Telemetry.Proofs.Output.Limit
import Telemetry.Proofs.Output.Sources

/-!
# Rows to a sink that fails

What a new writer makes of a list of rows, where the sink takes bytes up to a limit and then fails.

* `Roll`                 a list of rows as a source, which notes every report;
* `WriteStats.ofRows`    the counts of some rows in a number of batches;
* `Seen`                 a sink as it is seen while rows are written; the one that a run leaves is
                         seen too (`Seen.writeBatches`), and what a source keeps apart from its rows
                         makes no difference (`Seen.map`);
* `Kept`                 a writer and its source after `n` batches, none of which has failed;
* `Kept.turn`            one more turn of the loop: there is no row, a batch is written, or the sink
                         fails and nothing is counted;
* `Kept.outcome`         the whole run, by induction on the turns;
* `writeRows_limited`    what the sink has at any moment, when all goes well, and what is counted
                         where it does not.
-/

namespace Telemetry

/-! ## a list of rows -/

/-- rows that are still to come, and the counts that have been reported -/
structure Roll where
  rows : List Point
  reports : List WriteStats := []

namespace Roll

/-- the next row, whatever the point holds -/
def fill : Filler Roll
  | p, ⟨[], reports⟩ => some (false, p, ⟨[], reports⟩)
  | _, ⟨q :: rows, reports⟩ => some (true, q, ⟨rows, reports⟩)

/-- notes a report -/
def report (stats : WriteStats) (roll : Roll) : Roll :=
  { roll with reports := roll.reports ++ [stats] }

theorem gives (taken rest : List Point) (reports : List WriteStats) :
    Gives fill.fresh ⟨taken ++ rest, reports⟩ taken ⟨rest, reports⟩ := by
  induction taken with
  | nil => exact .nil _
  | cons p taken ih => exact .row rfl ih

theorem next_eq (format : Format) (size : Nat) (roll : Roll) :
    Batch.next fill.fresh format size roll
      = some ⟨format.textAll (roll.rows.take size), (roll.rows.take size).length,
          decide (size ≤ roll.rows.length), ⟨roll.rows.drop size, roll.reports⟩⟩ := by
  have hgives := gives (roll.rows.take size) (roll.rows.drop size) roll.reports
  rw [List.take_append_drop] at hgives
  by_cases hfull : size ≤ roll.rows.length
  · have hnext := hgives.next_full format
    rw [List.length_take_of_le hfull] at hnext
    rw [List.length_take_of_le hfull, decide_eq_true hfull]
    exact hnext
  · have hlt : roll.rows.length < size := Nat.lt_of_not_le hfull
    rw [List.take_of_length_le (Nat.le_of_lt hlt), List.drop_of_length_le (Nat.le_of_lt hlt)]
      at hgives ⊢
    rw [decide_eq_false hfull]
    exact hgives.next_short format rfl hlt

end Roll

/-! ## counts -/

namespace WriteStats

/-- the counts of rows that were handed over in a number of batches -/
def ofRows (format : Format) (rows : List Point) (batches : Nat) : WriteStats :=
  ⟨rows.length.toUInt64, batches.toUInt64, (format.encodeAll rows).size.toUInt64⟩

theorem ofRows_add (format : Format) (rows more : List Point) (n : Nat) :
    (ofRows format rows n).add more.length.toUInt64 (format.encodeAll more).size
      = ofRows format (rows ++ more) (n + 1) := by
  unfold ofRows add
  rw [List.length_append, Format.encodeAll_append, ByteArray.size_append, toUInt64_add,
    toUInt64_add, toUInt64_add]
  rfl

/-- full batches only -/
theorem points_ofRows (format : Format) {rows : List Point} {size : Nat} (n : Nat)
    (h : rows.length = size * n) :
    (ofRows format rows n).points = size.toUInt64 * (ofRows format rows n).batches := by
  show rows.length.toUInt64 = size.toUInt64 * n.toUInt64
  rw [h]
  exact UInt64.ofNat_mul _ _

/-- counts of which the bytes fit a word -/
theorem ofRows_exact {format : Format} {rows : List Point} {n : Nat}
    (hbytes : (format.encodeAll rows).size < UInt64.size) (hn : n ≤ rows.length) :
    (ofRows format rows n).points.toNat = rows.length ∧ (ofRows format rows n).batches.toNat = n ∧
      (ofRows format rows n).bytes.toNat = (format.encodeAll rows).size := by
  have hle := format.length_le_encodeAll rows
  exact ⟨UInt64.toNat_ofNat_of_lt' (by omega), UInt64.toNat_ofNat_of_lt' (by omega),
    UInt64.toNat_ofNat_of_lt' hbytes⟩

/-- the counts after each of the first `n` batches -/
def upTo (format : Format) (size : Nat) (all : List Point) (n : Nat) : List WriteStats :=
  (List.range n).map fun i => ofRows format (all.take (size * (i + 1))) (i + 1)

section
variable (format : Format) (size : Nat) (all : List Point)

theorem upTo_succ (n : Nat) :
    upTo format size all (n + 1)
      = upTo format size all n ++ [ofRows format (all.take (size * (n + 1))) (n + 1)] := by
  unfold upTo
  rw [List.range_succ, List.map_append, List.map_singleton]

theorem length_upTo (n : Nat) : (upTo format size all n).length = n := by
  rw [upTo, List.length_map, List.length_range]

theorem getElem?_upTo {n i : Nat} (h : i < n) :
    (upTo format size all n)[i]? = some (ofRows format (all.take (size * (i + 1))) (i + 1)) := by
  rw [upTo, List.getElem?_map, List.getElem?_range h]
  rfl

end

end WriteStats

/-! ## moments -/

section
variable {τ : Type}

/-- a sink as it is seen while rows are written: before a turn of the loop, or after a write to it
in a turn -/
inductive Seen (source : RowSource τ) (onBatch : WriteStats → τ → τ) (size : Nat) :
    Writer → τ → Sink → Prop where
  | before (w : Writer) (st : τ) : Seen source onBatch size w st w.out.sink
  | written {w : Writer} {st : τ} {s : Sink} {batch : Batch τ}
    (hbatch : Batch.next source w.format size st = some batch) (hrows : batch.rows ≠ 0)
    (hs : s ∈ w.out.sinks batch.text.toUTF8) : Seen source onBatch size w st s
  | later {w w₁ : Writer} {st st₁ : τ} {n : Nat} {s : Sink}
    (h : w.writeNext source onBatch size st = some (⟨.ok n, w₁, st₁⟩, true))
    (hs : Seen source onBatch size w₁ st₁ s) : Seen source onBatch size w st s

namespace Seen
variable {source : RowSource τ} {onBatch : WriteStats → τ → τ} {size : Nat}

theorem writeBatch {w : Writer} {st : τ} {batch : Batch τ} (points : UInt64)
    (hbatch : Batch.next source w.format size st = some batch) (hrows : batch.rows ≠ 0) :
    Seen source onBatch size w st (w.writeBatch batch.text.toUTF8 points).2.out.sink := by
  unfold Writer.writeBatch
  cases batch.text.toUTF8.isEmpty with
  | true => exact .before w st
  | false =>
    have hsink : Seen source onBatch size w st (w.out.write batch.text.toUTF8).1.sink := by
      rcases List.mem_cons.1 (w.out.sink_write_mem batch.text.toUTF8) with hsame | hmem
      · rw [hsame]
        exact .before w st
      · exact .written hbatch hrows hmem
    generalize w.out.write batch.text.toUTF8 = written at hsink
    obtain ⟨out, whole⟩ := written
    cases whole with
    | true => exact hsink
    | false => exact hsink

/-- the sink that a turn leaves -/
theorem writeNext {w : Writer} {st : τ} {out : Written τ} {more : Bool}
    (h : w.writeNext source onBatch size st = some (out, more)) :
    Seen source onBatch size w st out.writer.out.sink := by
  obtain ⟨batch, hbatch, hout⟩ := Option.map_eq_some_iff.1 h
  by_cases hrows : batch.rows = 0
  · rw [if_pos hrows] at hout
    obtain ⟨rfl, -⟩ := Prod.mk.inj hout
    exact .before w st
  · rw [if_neg hrows] at hout
    have hsink : Seen source onBatch size w st
        (w.writeBatch batch.text.toUTF8 batch.rows.toUInt64).2.out.sink :=
      Seen.writeBatch _ hbatch hrows
    rcases hwrite : w.writeBatch batch.text.toUTF8 batch.rows.toUInt64 with ⟨e | u, w₁⟩
    · rw [hwrite] at hsink hout
      obtain ⟨rfl, -⟩ := Prod.mk.inj hout
      exact hsink
    · rw [hwrite] at hsink hout
      obtain ⟨rfl, -⟩ := Prod.mk.inj hout
      exact hsink

/-- the sink that a run leaves is one of those that are seen -/
theorem writeBatches {turns rows : Nat} {w : Writer} {st : τ} {out : Written τ}
    (h : w.writeBatches source onBatch size turns rows st = some out) :
    Seen source onBatch size w st out.writer.out.sink := by
  induction turns generalizing rows w st with
  | zero =>
    obtain rfl := Option.some.inj h
    exact .before w st
  | succ turns ih =>
    rw [Writer.writeBatches] at h
    rcases hnext : w.writeNext source onBatch size st with _ | ⟨⟨e | n, w₁, st₁⟩, more⟩
    · rw [hnext] at h
      contradiction
    · rw [hnext] at h
      obtain rfl := Option.some.inj h
      exact writeNext hnext
    · rw [hnext] at h
      cases more with
      | true => exact .later hnext (ih h)
      | false =>
        have hturn := writeNext hnext
        obtain rfl := Option.some.inj h
        exact hturn

/-- the sinks that are seen do not depend on what a source keeps apart from its rows -/
theorem map {σ : Type} {f : τ → σ} {source' : RowSource σ} {onBatch' : WriteStats → σ → σ}
    {w : Writer} {st : τ} {s : Sink} (hl : Leads f source onBatch source' onBatch')
    (h : Seen source onBatch size w st s) : Seen source' onBatch' size w (f st) s := by
  induction h with
  | before w st => exact .before w (f st)
  | @written w st s batch hbatch hrows hs =>
    have hbatch' : Batch.next source' w.format size (f st) = some (batch.map f) := by
      rw [hl.next_eq, hbatch]
      rfl
    exact .written hbatch' hrows hs
  | @later w w₁ st st₁ n s hnext hs ih =>
    have hnext' : w.writeNext source' onBatch' size (f st) = some (⟨.ok n, w₁, f st₁⟩, true) := by
      rw [hl.writeNext_eq, hnext]
      rfl
    exact .later hnext' ih

end Seen

end

/-! ## one turn -/

namespace Writer
variable {w : Writer} {out : Buffered} {batch : ByteArray}

theorem writeBatch_put (points : UInt64) (hne : batch.isEmpty = false)
    (hwrite : w.out.write batch = (out, true)) :
    w.writeBatch batch points
      = (.ok (), { w with out := out, stats := w.stats.add points batch.size }) := by
  rw [writeBatch, hne, hwrite]
  rfl

theorem writeBatch_failed (points : UInt64) (hne : batch.isEmpty = false)
    (hwrite : w.out.write batch = (out, false)) :
    w.writeBatch batch points = (.error full, { w with out := out }) := by
  rw [writeBatch, hne, hwrite]
  rfl

end Writer

namespace Roll
variable {w : Writer} {size : Nat} {roll : Roll} {out : Buffered}

theorem writeNext_stopped (hnil : roll.rows.take size = []) :
    w.writeNext fill.fresh report size roll
      = some (⟨.ok 0, w, ⟨roll.rows.drop size, roll.reports⟩⟩, false) := by
  unfold Writer.writeNext
  rw [next_eq, hnil]
  rfl

theorem writeNext_put {stats : WriteStats} (hne : roll.rows.take size ≠ [])
    (hwrite : w.out.write (w.format.encodeAll (roll.rows.take size)) = (out, true))
    (hstats : w.stats.add (roll.rows.take size).length.toUInt64
      (w.format.encodeAll (roll.rows.take size)).size = stats) :
    w.writeNext fill.fresh report size roll
      = some (⟨.ok (roll.rows.take size).length, { w with out := out, stats := stats },
          ⟨roll.rows.drop size, roll.reports ++ [stats]⟩⟩, decide (size ≤ roll.rows.length)) := by
  have hlength : (roll.rows.take size).length ≠ 0 := fun h => hne (List.length_eq_zero_iff.1 h)
  have hbatch := Writer.writeBatch_put (roll.rows.take size).length.toUInt64
    (w.format.isEmpty_encodeAll hne) hwrite
  rw [hstats] at hbatch
  unfold Format.encodeAll at hbatch
  unfold Writer.writeNext
  rw [next_eq]
  simp only [Option.map_some, if_neg hlength, hbatch]
  rfl

theorem writeNext_failed (hne : roll.rows.take size ≠ [])
    (hwrite : w.out.write (w.format.encodeAll (roll.rows.take size)) = (out, false)) :
    w.writeNext fill.fresh report size roll
      = some (⟨.error Writer.full, { w with out := out }, ⟨roll.rows.drop size, roll.reports⟩⟩,
        false) := by
  have hlength : (roll.rows.take size).length ≠ 0 := fun h => hne (List.length_eq_zero_iff.1 h)
  have hbatch := Writer.writeBatch_failed (roll.rows.take size).length.toUInt64
    (w.format.isEmpty_encodeAll hne) hwrite
  unfold Format.encodeAll at hbatch
  unfold Writer.writeNext
  rw [next_eq]
  simp only [Option.map_some, if_neg hlength, hbatch]

end Roll

/-- a writer and its source after `n` batches of `size` rows, none of which has failed -/
structure Kept (limit : Nat) (format : Format) (size : Nat) (all : List Point) (n : Nat)
    (w : Writer) (roll : Roll) : Prop where
  format_eq : w.format = format
  within : w.out.sink.Within limit
  capacity_eq : w.out.capacity = Writer.capacity
  pending_le : w.out.pending.size ≤ Writer.capacity
  accepted_eq : w.out.accepted = format.encodeAll (all.take (size * n))
  stats_eq : w.stats = .ofRows format (all.take (size * n)) n
  rows_eq : roll.rows = all.drop (size * n)
  reports_eq : roll.reports = WriteStats.upTo format size all n

theorem Kept.new (limit : Nat) (format : Format) (size : Nat) (all : List Point) :
    Kept limit format size all 0 (.new ⟨some limit, .empty⟩ format) ⟨all, []⟩ where
  format_eq := rfl
  within := ⟨rfl, Nat.zero_le _⟩
  capacity_eq := rfl
  pending_le := Nat.zero_le _
  accepted_eq := rfl
  stats_eq := rfl
  rows_eq := rfl
  reports_eq := rfl

/-- some first rows are written by first bytes -/
theorem begins_encodeAll_take (format : Format) (all : List Point) (n : Nat) :
    Begins (format.encodeAll (all.take n)) (format.encodeAll all) := by
  refine ⟨format.encodeAll (all.drop n), ?_⟩
  rw [← Format.encodeAll_append, List.take_append_drop]

section
variable {limit size n : Nat} {format : Format} {all : List Point} {w : Writer} {roll : Roll}

/-- what one turn of the loop comes to -/
inductive Turned (limit : Nat) (format : Format) (size : Nat) (all : List Point) (n : Nat)
    (w : Writer) (roll : Roll) (next : Option (Written Roll × Bool)) : Prop where
  /-- there is no row any more -/
  | stopped (hall : all.length ≤ size * n)
    (hnext : next = some (⟨.ok 0, w, ⟨[], roll.reports⟩⟩, false))
  /-- a batch is written and reported -/
  | put {w₁ : Writer} {roll₁ : Roll} (hlt : size * n < all.length)
    (hnext : next = some (⟨.ok (min size (all.length - size * n)), w₁, roll₁⟩,
      decide (size * (n + 1) ≤ all.length)))
    (hkept : Kept limit format size all (n + 1) w₁ roll₁)
  /-- the sink fails, and nothing is counted or reported -/
  | failed {w₁ : Writer} {roll₁ : Roll} (hlt : size * n < all.length)
    (hnext : next = some (⟨.error Writer.full, w₁, roll₁⟩, false))
    (hholds : w₁.out.Holds limit (format.encodeAll all)) (hstats : w₁.stats = w.stats)
    (hreports : roll₁.reports = roll.reports)
    (hover : limit < (format.encodeAll (all.take (size * (n + 1)))).size)

namespace Kept

/-- the bytes of the next batch, behind those of the earlier ones -/
theorem accepted_next (h : Kept limit format size all n w roll) :
    w.out.accepted ++ w.format.encodeAll (roll.rows.take size)
      = format.encodeAll (all.take (size * (n + 1))) := by
  rw [h.accepted_eq, h.format_eq, h.rows_eq, ← Format.encodeAll_append, Nat.mul_succ,
    List.take_add]

theorem stats_next (h : Kept limit format size all n w roll) :
    w.stats.add (roll.rows.take size).length.toUInt64
        (w.format.encodeAll (roll.rows.take size)).size
      = .ofRows format (all.take (size * (n + 1))) (n + 1) := by
  rw [h.stats_eq, h.format_eq, WriteStats.ofRows_add, h.rows_eq, Nat.mul_succ, List.take_add]

/-- batches that were written are in the sink, or wait in the buffer -/
theorem size_le (h : Kept limit format size all n w roll) :
    (format.encodeAll (all.take (size * n))).size ≤ limit + Writer.capacity := by
  have hsink := h.within.size_le
  have hpending := h.pending_le
  rw [← h.accepted_eq, Buffered.accepted, ByteArray.size_append]
  omega

/-- the next batch goes behind the earlier ones, as far as it does -/
theorem puts_next (h : Kept limit format size all n w roll) :
    Buffered.Puts limit (format.encodeAll (all.take (size * (n + 1))))
      (w.out.write (w.format.encodeAll (roll.rows.take size)))
      (w.out.sinks (w.format.encodeAll (roll.rows.take size))) := by
  rw [← h.accepted_next]
  exact Buffered.puts_write h.within _

/-- a batch that was written -/
theorem next (h : Kept limit format size all n w roll) {out : Buffered}
    (hwrite : w.out.write (w.format.encodeAll (roll.rows.take size)) = (out, true)) :
    Kept limit format size all (n + 1)
      { w with out := out, stats := .ofRows format (all.take (size * (n + 1))) (n + 1) }
      ⟨roll.rows.drop size,
        roll.reports ++ [.ofRows format (all.take (size * (n + 1))) (n + 1)]⟩ where
  format_eq := h.format_eq
  within := by
    have hholds := h.puts_next.holds
    rw [hwrite] at hholds
    exact hholds.within
  capacity_eq := by
    have hcapacity := w.out.capacity_write (w.format.encodeAll (roll.rows.take size))
    rwa [hwrite, h.capacity_eq] at hcapacity
  pending_le := by
    have hbefore : w.out.pending.size ≤ w.out.capacity := by
      rw [h.capacity_eq]
      exact h.pending_le
    have hpending :=
      Buffered.pending_write_le hbefore (w.format.encodeAll (roll.rows.take size))
    rwa [hwrite, h.capacity_eq] at hpending
  accepted_eq := by
    have haccepted := Buffered.accepted_write (b := w.out) (by rw [hwrite])
    rwa [hwrite, h.accepted_next] at haccepted
  stats_eq := rfl
  rows_eq := by rw [h.rows_eq, List.drop_drop, Nat.mul_succ]
  reports_eq := by rw [h.reports_eq, WriteStats.upTo_succ]

theorem turn (h : Kept limit format size all n w roll) (hsize : 0 < size) :
    Turned limit format size all n w roll (w.writeNext Roll.fill.fresh Roll.report size roll) := by
  have hrest : roll.rows.length = all.length - size * n := by rw [h.rows_eq, List.length_drop]
  have htaken : (roll.rows.take size).length = min size (all.length - size * n) := by
    rw [List.length_take, hrest]
  by_cases hnil : roll.rows.take size = []
  · have hzero : (roll.rows.take size).length = 0 := List.length_eq_zero_iff.2 hnil
    have hall : all.length ≤ size * n := by omega
    have hdrop : roll.rows.drop size = [] := List.drop_eq_nil_iff.2 (by omega)
    refine .stopped hall ?_
    rw [Roll.writeNext_stopped hnil, hdrop]
  have hzero : (roll.rows.take size).length ≠ 0 := fun hz => hnil (List.length_eq_zero_iff.1 hz)
  have hlt : size * n < all.length := by omega
  have hputs := h.puts_next
  generalize hwrite : w.out.write (w.format.encodeAll (roll.rows.take size)) = written at hputs
  obtain ⟨out, whole⟩ := written
  cases whole with
  | true =>
    have hmore : decide (size ≤ roll.rows.length) = decide (size * (n + 1) ≤ all.length) := by
      rw [Nat.mul_succ]
      exact decide_eq_decide.2 (by omega)
    refine .put hlt ?_ (h.next hwrite)
    rw [Roll.writeNext_put hnil hwrite h.stats_next, htaken, hmore]
  | false =>
    have hbegins := begins_encodeAll_take format all (size * (n + 1))
    exact .failed hlt (Roll.writeNext_failed hnil hwrite)
      ⟨hputs.holds.within, hputs.holds.accepted.trans hbegins⟩ rfl rfl (hputs.cut rfl)

/-- while rows are written, the sink has the first bytes of all of them -/
theorem begins_of_seen (h : Kept limit format size all n w roll) (hsize : 0 < size) {s : Sink}
    (hs : Seen Roll.fill.fresh Roll.report size w roll s) :
    Begins s.bytes (format.encodeAll all) := by
  induction hs generalizing n with
  | before w roll =>
    have hbegins := begins_encodeAll_take format all (size * n)
    rw [← h.accepted_eq] at hbegins
    exact (Begins.append _ _).trans hbegins
  | @written w roll s batch hbatch hrows hs =>
    rw [Roll.next_eq] at hbatch
    obtain rfl := Option.some.inj hbatch
    exact (h.puts_next.seen s hs).trans (begins_encodeAll_take format all _)
  | @later w w₁ roll roll₁ m s hnext hs ih =>
    -- only a batch that was written has a turn after it
    cases h.turn hsize with
    | stopped hall hstop =>
      rw [hnext] at hstop
      exact absurd (Prod.mk.inj (Option.some.inj hstop)).2 Bool.true_eq_false.mp
    | put hlt hput hkept =>
      rw [hnext] at hput
      obtain ⟨-, rfl, rfl⟩ := Written.mk.inj (Prod.mk.inj (Option.some.inj hput)).1
      exact ih hkept
    | failed hlt hfail =>
      rw [hnext] at hfail
      exact absurd (Prod.mk.inj (Option.some.inj hfail)).2 Bool.true_eq_false.mp

end Kept

/-! ## all turns -/

/-- what a run comes to -/
inductive Outcome (limit : Nat) (format : Format) (size : Nat) (all : List Point) :
    Written Roll → Prop where
  /-- every row is in the sink or pending -/
  | whole {n : Nat} {w : Writer} {roll : Roll} (hall : all.length ≤ size * n)
    (hkept : Kept limit format size all n w roll) :
    Outcome limit format size all ⟨.ok all.length, w, roll⟩
  /-- the batch after the first `n` has failed -/
  | failed {n : Nat} {w : Writer} {roll : Roll} (hlt : size * n < all.length)
    (hholds : w.out.Holds limit (format.encodeAll all))
    (hstats : w.stats = .ofRows format (all.take (size * n)) n)
    (hreports : roll.reports = WriteStats.upTo format size all n)
    (hkept : (format.encodeAll (all.take (size * n))).size ≤ limit + Writer.capacity)
    (hover : limit < (format.encodeAll (all.take (size * (n + 1)))).size) :
    Outcome limit format size all ⟨.error Writer.full, w, roll⟩

namespace Kept

/-- **The run of a list.**  It ends after the last batch, or with the first one that fails. -/
theorem outcome (h : Kept limit format size all n w roll) (hsize : 0 < size) (turns : Nat)
    (hturns : all.length - size * n < turns) :
    ∃ out, w.writeBatches Roll.fill.fresh Roll.report size turns (min (size * n) all.length) roll
        = some out ∧ Outcome limit format size all out := by
  -- by the turns that are left; a batch that was written leaves one batch less for them
  induction turns generalizing n w roll with
  | zero => exact absurd hturns (Nat.not_lt_zero _)
  | succ turns ih =>
    rw [Writer.writeBatches]
    cases h.turn hsize with
    | stopped hall hnext =>
      rw [hnext]
      have hnil : roll.rows = [] := by rw [h.rows_eq, List.drop_eq_nil_of_le hall]
      have hroll : (⟨[], roll.reports⟩ : Roll) = roll := by rw [← hnil]
      refine ⟨_, rfl, ?_⟩
      show Outcome _ _ _ _ ⟨.ok (min (size * n) all.length + 0), w, ⟨[], roll.reports⟩⟩
      rw [Nat.min_eq_right hall, Nat.add_zero, hroll]
      exact .whole hall h
    | @put w₁ roll₁ hlt hnext hkept =>
      have hrows : min (size * n) all.length + min size (all.length - size * n)
          = min (size * (n + 1)) all.length := by
        rw [Nat.mul_succ]
        omega
      rw [hnext]
      by_cases hmore : size * (n + 1) ≤ all.length
      · rw [decide_eq_true hmore]
        have hleft : all.length - size * (n + 1) < turns := by
          rw [Nat.mul_succ] at hmore ⊢
          omega
        have hlater := ih hkept hleft
        rwa [← hrows] at hlater
      · rw [decide_eq_false hmore]
        have hall : all.length ≤ size * (n + 1) := Nat.le_of_not_le hmore
        refine ⟨_, rfl, ?_⟩
        show Outcome _ _ _ _
          ⟨.ok (min (size * n) all.length + min size (all.length - size * n)), w₁, roll₁⟩
        rw [hrows, Nat.min_eq_right hall]
        exact .whole hall hkept
    | failed hlt hnext hholds hstats hreports hover =>
      rw [hnext]
      exact ⟨_, rfl,
        .failed hlt hholds (hstats.trans h.stats_eq) (hreports.trans h.reports_eq) h.size_le hover⟩

end Kept

namespace Outcome
variable {out : Written Roll}

theorem holds (h : Outcome limit format size all out) :
    out.writer.out.Holds limit (format.encodeAll all) := by
  cases h with
  | @whole n w roll hall hkept =>
    have haccepted := hkept.accepted_eq
    rw [List.take_of_length_le hall] at haccepted
    refine ⟨hkept.within, ?_⟩
    rw [haccepted]
    exact Begins.refl _
  | failed hlt hholds => exact hholds

/-- all rows have been taken or are pending, or there are more bytes than the sink takes -/
theorem accepted_or_lt (h : Outcome limit format size all out) :
    (out.result = .ok all.length ∧ out.writer.out.accepted = format.encodeAll all) ∨
    (out.result = .error Writer.full ∧ limit < (format.encodeAll all).size) := by
  cases h with
  | @whole n w roll hall hkept =>
    refine .inl ⟨rfl, ?_⟩
    rw [hkept.accepted_eq, List.take_of_length_le hall]
  | failed hlt hholds hstats hreports hkept hover =>
    exact .inr ⟨rfl, Nat.lt_of_lt_of_le hover (begins_encodeAll_take format all _).size_le⟩

/-- more bytes than the sink takes and the buffer holds make the writing fail -/
theorem error_of_lt (h : Outcome limit format size all out)
    (hover : limit + Writer.capacity < (format.encodeAll all).size) :
    out.result = .error Writer.full := by
  cases h with
  | @whole n w roll hall hkept =>
    have hsize := hkept.size_le
    rw [List.take_of_length_le hall] at hsize
    omega
  | failed => rfl

/-- where a batch has failed, it does not fit, and just the earlier ones are counted and reported -/
theorem counted (h : Outcome limit format size all out) {e : Fault}
    (hresult : out.result = .error e) :
    ∃ n, size * n < all.length ∧
      (format.encodeAll (all.take (size * n))).size ≤ limit + Writer.capacity ∧
      limit < (format.encodeAll (all.take (size * (n + 1)))).size ∧
      out.writer.stats = .ofRows format (all.take (size * n)) n ∧
      out.state.reports = WriteStats.upTo format size all n := by
  cases h with
  | whole => exact nomatch hresult
  | failed hlt hholds hstats hreports hkept hover =>
    exact ⟨_, hlt, hkept, hover, hstats, hreports⟩

end Outcome

end

/-! ## handing over the rest -/

namespace Writer
variable {limit : Nat} {w : Writer}

theorem flush_ok_iff (h : w.out.sink.Within limit) :
    w.flush.1 = .ok () ↔ w.out.accepted.size ≤ limit := by
  rw [← Buffered.flush_whole_iff h]
  show (if w.out.flush.2 = true then Except.ok () else Except.error full) = Except.ok () ↔ _
  cases w.out.flush.2 with
  | true => exact iff_of_true rfl rfl
  | false => exact iff_of_false nofun nofun

/-- when everything has been handed over, the sink has all that was accepted -/
theorem sink_flush (h : w.flush.1 = .ok ()) (hlimit : w.out.sink.Within limit) :
    w.flush.2.out.sink.bytes = w.out.accepted := by
  have hwhole := (Buffered.flush_whole_iff hlimit).2 ((flush_ok_iff hlimit).1 h)
  have haccepted := Buffered.accepted_flush w.out
  rwa [Buffered.accepted, Buffered.pending_flush hwhole, ByteArray.append_empty] at haccepted

end Writer

/-! ## the run of a new writer -/

/-- **Rows to a sink that takes `limit` bytes.**  At any moment the sink has the first bytes of the
rows.  Writing them and handing over the rest goes well exactly where all fit, and then the sink has
them all.  Writing fails itself where there are more bytes than the sink and the buffer have place
for.  Where it fails, full batches are counted, each of which was reported, and the next batch, which
does not fit, is in none of the counts; these are exact where the bytes counted fit a word. -/
theorem writeRows_limited (limit : Nat) (format : Format) (rows : List Point) {size : Nat}
    (hroom : Writer.hasRoom size = true) :
    ∃ out, (Writer.new ⟨some limit, .empty⟩ format).writeRows? Roll.fill Roll.report size rows.length
        ⟨rows, []⟩ = some out ∧
      (∀ s, Seen Roll.fill.reused (beside Roll.report) (max size 1)
          (.new ⟨some limit, .empty⟩ format) ({}, ⟨rows, []⟩) s →
        Begins s.bytes (format.encodeAll rows)) ∧
      Begins out.writer.flush.2.out.sink.bytes (format.encodeAll rows) ∧
      Begins out.writer.close.bytes (format.encodeAll rows) ∧
      Begins out.writer.flush.2.close.bytes (format.encodeAll rows) ∧
      ((out.result.isOk ∧ out.writer.flush.1 = .ok ()) ↔ (format.encodeAll rows).size ≤ limit) ∧
      ((format.encodeAll rows).size ≤ limit → out.result = .ok rows.length ∧
        out.writer.flush.2.out.sink.bytes = format.encodeAll rows) ∧
      (limit + Writer.capacity < (format.encodeAll rows).size →
        out.result = .error Writer.full) ∧
      ∀ e, out.result = .error e → ∃ n, max size 1 * n < rows.length ∧
        (format.encodeAll (rows.take (max size 1 * n))).size ≤ limit + Writer.capacity ∧
        limit < (format.encodeAll (rows.take (max size 1 * (n + 1)))).size ∧
        out.writer.stats = .ofRows format (rows.take (max size 1 * n)) n ∧
        out.writer.stats.points = (max size 1).toUInt64 * out.writer.stats.batches ∧
        out.state.reports.length = n ∧
        (∀ i < n, out.state.reports[i]? =
          some (.ofRows format (rows.take (max size 1 * (i + 1))) (i + 1))) ∧
        ((format.encodeAll (rows.take (max size 1 * n))).size < UInt64.size →
          out.writer.stats.points.toNat = max size 1 * n ∧ out.writer.stats.batches.toNat = n ∧
          out.writer.stats.bytes.toNat = (format.encodeAll (rows.take (max size 1 * n))).size) := by
  have hsize : 0 < max size 1 := Nat.le_max_right _ _
  have hnew := Kept.new limit format (max size 1) rows
  obtain ⟨out, hwrite, hrun⟩ := hnew.outcome hsize (rows.length + 1) (by omega)
  rw [Nat.mul_zero, Nat.zero_min] at hwrite
  refine ⟨out, ?_, fun s hs => ?_, ?_⟩
  · rw [Writer.writeRows?, if_pos hroom, Writer.writeRows_eq, hwrite]
  · have hseen := hs.map (Roll.fill.leads_fresh Roll.report)
    exact hnew.begins_of_seen hsize hseen
  have hholds := hrun.holds
  have hflushed : out.writer.flush.2.out.Holds limit (format.encodeAll rows) := hholds.flush
  refine ⟨hflushed.sink, hflushed.sink, hflushed.flush.sink, ?_, ?_, hrun.error_of_lt, ?_⟩
  · rcases hrun.accepted_or_lt with ⟨hok, haccepted⟩ | ⟨herror, hover⟩
    · rw [hok, Writer.flush_ok_iff hholds.within, haccepted]
      exact and_iff_right rfl
    · rw [herror]
      exact iff_of_false (fun h => Bool.false_ne_true h.1) (Nat.not_le_of_lt hover)
  · intro hfits
    rcases hrun.accepted_or_lt with ⟨hok, haccepted⟩ | ⟨-, hover⟩
    · have hflush := (Writer.flush_ok_iff hholds.within).2 (by rwa [haccepted])
      exact ⟨hok, (Writer.sink_flush hflush hholds.within).trans haccepted⟩
    · exact absurd hfits (Nat.not_le_of_lt hover)
  · intro e hresult
    obtain ⟨n, hlt, hkept, hover, hstats, hreports⟩ := hrun.counted hresult
    have hlength : (rows.take (max size 1 * n)).length = max size 1 * n :=
      List.length_take_of_le (Nat.le_of_lt hlt)
    refine ⟨n, hlt, hkept, hover, hstats, ?_, ?_, ?_, ?_⟩
    · rw [hstats]
      exact WriteStats.points_ofRows format n hlength
    · rw [hreports, WriteStats.length_upTo]
    · intro i hi
      rw [hreports, WriteStats.getElem?_upTo format (max size 1) rows hi]
    · intro hbytes
      have hn : n ≤ (rows.take (max size 1 * n)).length := by
        rw [hlength]
        exact Nat.le_mul_of_pos_left n hsize
      have hexact := WriteStats.ofRows_exact hbytes hn
      rwa [← hstats, hlength] at hexact

theorem size_encodeAll_replicate (format : Format) (p : Point) (n : Nat) :
    (format.encodeAll (List.replicate n p)).size = n * (format.encodeAll [p]).size := by
  induction n with
  | zero =>
    rw [Nat.zero_mul]
    rfl
  | succ n ih =>
    have hsplit : List.replicate (n + 1) p = [p] ++ List.replicate n p := List.replicate_succ
    rw [hsplit, Format.encodeAll_append, ByteArray.size_append, ih, Nat.succ_mul, Nat.add_comm]

/-- rows of three bytes in three batches, each of which is larger than the buffer, and a sink that
takes the first one and a part of the second -/
theorem writeRows_limited_second_batch : Writer.hasRoom 500000 = true ∧
    ∃ out, (Writer.new ⟨some 1900000, .empty⟩ .line).writeRows? Roll.fill Roll.report 500000
        (List.replicate 1500000 ({} : Point)).length ⟨List.replicate 1500000 {}, []⟩ = some out ∧
      out.result = .error Writer.full ∧ out.state.reports.length = 1 ∧
      out.writer.stats.points.toNat = 500000 ∧ out.writer.stats.batches.toNat = 1 ∧
      out.writer.stats.bytes.toNat = 1500000 := by
  have hroom : Writer.hasRoom 500000 = true := by decide
  obtain ⟨out, hrun, -, -, -, -, -, -, hfails, herror⟩ :=
    writeRows_limited 1900000 .line (List.replicate 1500000 {}) hroom
  have hone : (Format.line.encodeAll [{}]).size = 3 := by decide +kernel
  have hbytes : ∀ n, (Format.line.encodeAll (List.replicate n {})).size = n * 3 := fun n => by
    rw [size_encodeAll_replicate, hone]
  have hcapacity : Writer.capacity = 1048576 := rfl
  have hsize : max 500000 1 = 500000 := rfl
  have hresult : out.result = .error Writer.full := hfails (by rw [hbytes]; omega)
  obtain ⟨n, hlt, hkept, hover, -, -, hcount, -, hexact⟩ := herror _ hresult
  rw [List.length_replicate, hsize] at hlt
  rw [List.take_replicate, hbytes, hsize] at hkept hover hexact
  -- the second batch is the first one that does not fit; the first one is not in the buffer any more
  obtain rfl : n = 1 := by omega
  exact ⟨hroom, out, hrun, hresult, hcount, hexact (by decide)⟩

end Telemetry
