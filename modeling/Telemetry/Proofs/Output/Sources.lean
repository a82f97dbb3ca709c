import Telemetry.Output.Writer

/-!
# Sources

What a run makes of a source depends on the rows that it gives, and not on what else it keeps.

* `Leads`                   a map of states from one source to another that gives the same rows, and
                            that agrees with what is called after a batch;
* `Leads.writeBatches_eq`   the runs of both are the same but for the states, turn by turn;
* `Filler.fresh`            the rows of a filler that is handed an empty point each time;
* `Writer.writeRows_eq`     the point that a writer has filled again and again makes no difference.
-/

namespace Telemetry

variable {σ τ : Type}

/-- a batch with another state -/
def Batch.map (f : τ → σ) (b : Batch τ) : Batch σ := ⟨b.text, b.rows, b.more, f b.state⟩

/-- `f` leads from the states of one source to those of another -/
structure Leads (f : τ → σ) (source : RowSource τ) (onBatch : WriteStats → τ → τ)
    (source' : RowSource σ) (onBatch' : WriteStats → σ → σ) : Prop where
  source_eq : ∀ st, source' (f st) = (source st).map (Prod.map id f)
  onBatch_eq : ∀ stats st, onBatch' stats (f st) = f (onBatch stats st)

namespace Leads
variable {f : τ → σ} {source : RowSource τ} {source' : RowSource σ} {onBatch : WriteStats → τ → τ}
  {onBatch' : WriteStats → σ → σ}

theorem collect_eq (h : Leads f source onBatch source' onBatch') (format : Format) (n : Nat)
    (b : Batch τ) :
    Batch.collect source' format n (b.map f) = (Batch.collect source format n b).map (.map f) := by
  induction n generalizing b with
  | zero => rfl
  | succ n ih =>
    have hsource : source' (b.map f).state = (source b.state).map (Prod.map id f) :=
      h.source_eq b.state
    rw [Batch.collect, Batch.collect, hsource]
    rcases source b.state with _ | ⟨_ | p, st⟩
    · rfl
    · rfl
    · exact ih ⟨b.text ++ format.encode p, b.rows + 1, true, st⟩

theorem next_eq (h : Leads f source onBatch source' onBatch') (format : Format) (size : Nat)
    (st : τ) :
    Batch.next source' format size (f st) = (Batch.next source format size st).map (.map f) :=
  h.collect_eq format size ⟨"", 0, true, st⟩

theorem writeNext_eq (h : Leads f source onBatch source' onBatch') (w : Writer) (size : Nat)
    (st : τ) :
    w.writeNext source' onBatch' size (f st)
      = (w.writeNext source onBatch size st).map (Prod.map (Written.map f) id) := by
  unfold Writer.writeNext
  rw [h.next_eq]
  rcases Batch.next source w.format size st with _ | ⟨text, rows, more, st₁⟩
  · rfl
  · cases rows with
    | zero => rfl
    | succ n =>
      rcases hwrite : w.writeBatch text.toUTF8 (n + 1).toUInt64 with ⟨e | u, w₁⟩
      · simp only [Option.map_some, Batch.map, hwrite]
        rfl
      · simp only [Option.map_some, Batch.map, hwrite, h.onBatch_eq]
        rfl

/-- the runs of two sources that give the same rows -/
theorem writeBatches_eq (h : Leads f source onBatch source' onBatch') (size limit rows : Nat)
    (w : Writer) (st : τ) :
    w.writeBatches source' onBatch' size limit rows (f st)
      = (w.writeBatches source onBatch size limit rows st).map (.map f) := by
  induction limit generalizing rows w st with
  | zero => rfl
  | succ limit ih =>
    rw [Writer.writeBatches, Writer.writeBatches, h.writeNext_eq]
    rcases w.writeNext source onBatch size st with _ | ⟨⟨e | n, w₁, st₁⟩, more⟩
    · rfl
    · rfl
    · cases more with
      | true => exact ih _ w₁ st₁
      | false => rfl

end Leads

/-! ## the point that is filled -/

/-- the rows of a filler that is handed an empty point each time -/
def Filler.fresh (fill : Filler σ) : RowSource σ := fun st =>
  match fill {} st with
  | some (true, p, st) => some (some p, st)
  | some (false, _, st) => some (none, st)
  | none => none

namespace Filler
variable (fill : Filler σ)

/-- resetting a point makes it an empty one, so that what it held before is forgotten -/
theorem reused_eq (p : Point) (st : σ) :
    fill.reused (p, st)
      = (fill {} st).map fun (more, q, st) => (if more then some q else none, q, st) := by
  simp only [reused, Point.reset_eq]
  rcases fill {} st with _ | ⟨_ | _, q, st₁⟩
  · rfl
  · rfl
  · rfl

theorem fresh_eq (st : σ) :
    fill.fresh st = (fill {} st).map fun (more, q, st) => (if more then some q else none, st) := by
  unfold fresh
  rcases fill {} st with _ | ⟨_ | _, q, st₁⟩
  · rfl
  · rfl
  · rfl

theorem leads_fresh (onBatch : WriteStats → σ → σ) :
    Leads Prod.snd fill.reused (beside onBatch) fill.fresh onBatch where
  source_eq := fun (p, st) => by
    rw [reused_eq, fresh_eq, Option.map_map]
    rfl
  onBatch_eq := fun _ _ => rfl

variable {fill} {st st₁ : σ} {p : Point}

theorem fresh_row (h : fill {} st = some (true, p, st₁)) : fill.fresh st = some (some p, st₁) := by
  rw [fresh_eq, h]
  rfl

theorem fresh_stop (h : fill {} st = some (false, p, st₁)) : fill.fresh st = some (none, st₁) := by
  rw [fresh_eq, h]
  rfl

end Filler

/-- **The point that is filled again and again** makes no difference: a run is that of the rows that
the filler gives when it is handed an empty point each time. -/
theorem Writer.writeRows_eq (w : Writer) (fill : Filler σ) (onBatch : WriteStats → σ → σ)
    (size most : Nat) (st : σ) :
    w.writeRows fill onBatch size most st
      = w.writeBatches fill.fresh onBatch (max size 1) (most + 1) 0 st :=
  ((fill.leads_fresh onBatch).writeBatches_eq (max size 1) (most + 1) 0 w ({}, st)).symm

end Telemetry
