import Mathlib.Algebra.Order.Floor.Div
import Telemetry.Proofs.Output.Cut

/-!
# Rows and reports

What a new writer to a sink without a limit makes of any filler that ends.  The filler and what is
called after each batch may share a state, and each may depend on what the other has done.

* `told`, `toldLast`   a state after some rows: the counts are reported where these rows fill whole
                       batches, and once more at the end if they do not;
* `Yields`             the rows that a filler gives until it says that there is none, where every
                       full batch is reported in between;
* `Yields.writeNext_none`, `_short`, `_full`  the three turns of the loop;
* `Yields.writeBatches`  the loop writes these rows and reports just so, by induction on the turns;
* `Watched`            a state, the points that were handed to the filler, and the counts that were
                       reported; a run that is watched is the same run (`Watched.writeRows?_eq`);
* `writeRows_in_batches`  the points handed over, the reports, and what the sink has in the end.
-/

namespace Telemetry

theorem Handed.stats_new {sink : Sink} {format : Format} {rows : List Point} {n : Nat} {w : Writer}
    (h : Handed (.new sink format) rows n w) : w.stats = .ofRows format rows n := by
  have hpoints : w.stats.points = 0 + rows.length.toUInt64 := h.points_eq
  have hbatches : w.stats.batches = 0 + n.toUInt64 := h.batches_eq
  have hbytes : w.stats.bytes = 0 + (format.encodeAll rows).size.toUInt64 := h.bytes_eq
  rw [UInt64.zero_add] at hpoints hbatches hbytes
  show (⟨w.stats.points, w.stats.batches, w.stats.bytes⟩ : WriteStats) = _
  rw [hpoints, hbatches, hbytes]
  rfl

/-- the number of batches, where the last one may have room left -/
theorem batches_eq {n size : Nat} (hsize : 0 < size) :
    (n + size - 1) / size = if size ∣ n then n / size else n / size + 1 := by
  by_cases hdvd : size ∣ n
  · obtain ⟨k, rfl⟩ := hdvd
    rw [if_pos (Nat.dvd_mul_right size k), Nat.mul_div_cancel_left _ hsize, Nat.add_sub_assoc hsize,
      Nat.mul_add_div hsize, Nat.div_eq_of_lt (by omega), Nat.add_zero]
  · have hmod : n % size ≠ 0 := fun h => hdvd (Nat.dvd_of_mod_eq_zero h)
    have hdiv := Nat.div_add_mod n size
    have hlt := Nat.mod_lt n hsize
    rw [if_neg hdvd, (by omega : n + size - 1 = n - 1 + size), Nat.add_div_right _ hsize,
      (by omega : n - 1 = size * (n / size) + (n % size - 1)), Nat.mul_add_div hsize,
      Nat.div_eq_of_lt (by omega : n % size - 1 < size), Nat.add_zero]

section
variable {σ : Type}

/-! ## reports -/

section
variable (format : Format) (size : Nat) (onBatch : WriteStats → σ → σ)

/-- a state after some rows; the counts are reported if these rows fill whole batches -/
def told (rows : List Point) (st : σ) : σ :=
  if size ∣ rows.length then onBatch (.ofRows format rows (rows.length / size)) st else st

/-- a state after all rows; the counts are reported if the last batch is not full -/
def toldLast (rows : List Point) (st : σ) : σ :=
  if size ∣ rows.length then st else onBatch (.ofRows format rows (rows.length / size + 1)) st

end

section
variable {format : Format} {size k c : Nat} {onBatch : WriteStats → σ → σ} {rows : List Point}

theorem told_whole (hsize : 0 < size) (hrows : rows.length = size * k) (st : σ) :
    told format size onBatch rows st = onBatch (.ofRows format rows k) st := by
  rw [told, if_pos ⟨k, hrows⟩, hrows, Nat.mul_div_cancel_left _ hsize]

theorem not_dvd_of_inside (hrows : rows.length = size * k + c) (hpos : 0 < c) (hlt : c < size) :
    ¬ size ∣ rows.length := by
  intro hdvd
  have hmod : rows.length % size = c := by rw [hrows, Nat.mul_add_mod, Nat.mod_eq_of_lt hlt]
  rw [Nat.mod_eq_zero_of_dvd hdvd] at hmod
  omega

theorem div_of_inside (hrows : rows.length = size * k + c) (hlt : c < size) :
    rows.length / size = k := by
  rw [hrows, Nat.mul_add_div (Nat.zero_lt_of_lt hlt), Nat.div_eq_of_lt hlt, Nat.add_zero]

theorem told_inside (hrows : rows.length = size * k + c) (hpos : 0 < c) (hlt : c < size) (st : σ) :
    told format size onBatch rows st = st :=
  if_neg (not_dvd_of_inside hrows hpos hlt)

theorem toldLast_whole (hrows : rows.length = size * k) (st : σ) :
    toldLast format size onBatch rows st = st :=
  if_pos ⟨k, hrows⟩

theorem toldLast_inside (hrows : rows.length = size * k + c) (hpos : 0 < c) (hlt : c < size)
    (st : σ) :
    toldLast format size onBatch rows st = onBatch (.ofRows format rows (k + 1)) st := by
  rw [toldLast, if_neg (not_dvd_of_inside hrows hpos hlt), div_of_inside hrows hlt]

end

/-- `Yields fill after done st rows st'`: in state `st`, after the rows `done`, the filler gives
`rows` and then says that there is none, which leaves `st'`.  Between two calls of the filler, `after`
is what else happens to the state. -/
inductive Yields (fill : Filler σ) (after : List Point → σ → σ) :
    List Point → σ → List Point → σ → Prop where
  | stop {done : List Point} {st st' : σ} {p : Point} (h : fill {} st = some (false, p, st')) :
    Yields fill after done st [] st'
  | row {done rows : List Point} {st st₁ st' : σ} {p : Point}
    (h : fill {} st = some (true, p, st₁))
    (hrest : Yields fill after (done ++ [p]) (after (done ++ [p]) st₁) rows st') :
    Yields fill after done st (p :: rows) st'

namespace Yields
variable {fill : Filler σ} {onBatch : WriteStats → σ → σ} {format : Format} {size k c limit : Nat}
  {done taken rest rows : List Point} {st st' : σ} {before : ByteArray} {w : Writer}

/-! ### one batch -/

/-- the rows that are missing from a batch, and the report after the last of them -/
theorem gives_full (h : Yields fill (told format size onBatch) done st (taken ++ rest) st')
    (hdone : done.length = size * k + c) (hc : c + taken.length = size) (htaken : taken ≠ []) :
    ∃ st₁, Gives fill.fresh st taken st₁ ∧ Yields fill (told format size onBatch) (done ++ taken)
      (onBatch (.ofRows format (done ++ taken) (k + 1)) st₁) rest st' := by
  induction taken generalizing done st c with
  | nil => exact absurd rfl htaken
  | cons p taken ih =>
    cases h with
    | @row _ _ _ st₁ _ _ hfill hrest =>
      have hone : (done ++ [p]).length = size * k + (c + 1) := by
        rw [List.length_append, hdone]
        rfl
      rw [List.length_cons] at hc
      by_cases hnil : taken = []
      · -- the last row of the batch
        subst hnil
        rw [List.length_nil, Nat.zero_add] at hc
        rw [hc, ← Nat.mul_succ] at hone
        rw [told_whole (by omega) hone] at hrest
        exact ⟨st₁, .row (Filler.fresh_row hfill) (.nil st₁), hrest⟩
      · have hpos : 0 < taken.length := List.length_pos_iff.2 hnil
        rw [told_inside hone (Nat.succ_pos c) (by omega)] at hrest
        obtain ⟨st₂, hgives, hyields⟩ := ih hrest hone (by omega) hnil
        rw [List.append_assoc] at hyields
        exact ⟨st₂, .row (Filler.fresh_row hfill) hgives, hyields⟩

/-- the last rows, which do not fill a batch and are not reported by the way -/
theorem gives_short (h : Yields fill (told format size onBatch) done st taken st')
    (hdone : done.length = size * k + c) (hc : c + taken.length < size) :
    ∃ st₁, Gives fill.fresh st taken st₁ ∧ fill.fresh st₁ = some (none, st') := by
  induction taken generalizing done st c with
  | nil =>
    cases h with
    | stop hfill => exact ⟨st, .nil st, Filler.fresh_stop hfill⟩
  | cons p taken ih =>
    cases h with
    | @row _ _ _ st₁ _ _ hfill hrest =>
      have hone : (done ++ [p]).length = size * k + (c + 1) := by
        rw [List.length_append, hdone]
        rfl
      rw [List.length_cons] at hc
      rw [told_inside hone (Nat.succ_pos c) (by omega)] at hrest
      obtain ⟨st₂, hgives, hstop⟩ := ih hrest hone (by omega)
      exact ⟨st₂, .row (Filler.fresh_row hfill) hgives, hstop⟩

/-! ### one turn -/

theorem writeNext_none (h : Yields fill (told format size onBatch) done st [] st')
    (hsize : 0 < size) (hdone : done.length = size * k) (w : Writer) :
    w.writeNext fill.fresh onBatch size st
      = some (⟨.ok 0, w, toldLast format size onBatch done st'⟩, false) := by
  have hdone₀ : done.length = size * k + 0 := hdone
  obtain ⟨st₁, hgives, hstop⟩ := h.gives_short hdone₀ hsize
  have hbatch := hgives.next_short w.format hstop hsize
  rw [w.writeNext_empty onBatch hbatch, toldLast_whole hdone]

theorem writeNext_short (h : Yields fill (told format size onBatch) done st rows st')
    (hdone : done.length = size * k) (hnil : rows ≠ []) (hlt : rows.length < size)
    (hhanded : Handed (.new ⟨none, before⟩ format) done k w) :
    ∃ w₁, w.writeNext fill.fresh onBatch size st
        = some (⟨.ok rows.length, w₁, toldLast format size onBatch (done ++ rows) st'⟩, false) ∧
      Handed (.new ⟨none, before⟩ format) (done ++ rows) (k + 1) w₁ := by
  have hdone₀ : done.length = size * k + 0 := hdone
  obtain ⟨st₁, hgives, hstop⟩ := h.gives_short hdone₀ (by omega)
  obtain ⟨w₁, hnext, hhanded₁⟩ := w.writeNext_handed onBatch hhanded.limit_eq hnil
    (hgives.next_short w.format hstop hlt)
  have hlater := hhanded.trans hhanded₁
  have hall : (done ++ rows).length = size * k + rows.length := by
    rw [List.length_append, hdone]
  refine ⟨w₁, ?_, hlater⟩
  rw [hnext, toldLast_inside hall (List.length_pos_iff.2 hnil) hlt, hlater.stats_new]

theorem writeNext_full (h : Yields fill (told format size onBatch) done st rows st')
    (hsize : 0 < size) (hdone : done.length = size * k) (hle : size ≤ rows.length)
    (hhanded : Handed (.new ⟨none, before⟩ format) done k w) :
    ∃ w₁ st₁, w.writeNext fill.fresh onBatch size st = some (⟨.ok size, w₁, st₁⟩, true) ∧
      Handed (.new ⟨none, before⟩ format) (done ++ rows.take size) (k + 1) w₁ ∧
      Yields fill (told format size onBatch) (done ++ rows.take size) st₁ (rows.drop size) st' := by
  have hdone₀ : done.length = size * k + 0 := hdone
  have htaken : (rows.take size).length = size := List.length_take_of_le hle
  have hne : rows.take size ≠ [] := by
    intro hnil
    rw [hnil] at htaken
    exact absurd htaken (Nat.ne_of_lt hsize)
  rw [← List.take_append_drop size rows] at h
  obtain ⟨st₁, hgives, hyields⟩ := h.gives_full hdone₀ (by omega) hne
  obtain ⟨w₁, hnext, hhanded₁⟩ := w.writeNext_handed onBatch hhanded.limit_eq hne
    (hgives.next_full w.format)
  have hlater := hhanded.trans hhanded₁
  rw [htaken] at hnext
  rw [← hlater.stats_new] at hyields
  exact ⟨w₁, _, hnext, hlater, hyields⟩

/-! ### all batches -/

/-- **The run of a filler.**  A writer that was handed `k` full batches writes the rows that are left,
and reports after every batch. -/
theorem writeBatches (h : Yields fill (told format size onBatch) done st rows st')
    (hsize : 0 < size) (hdone : done.length = size * k)
    (hhanded : Handed (.new ⟨none, before⟩ format) done k w) (hlimit : rows.length < limit) :
    ∃ w', w.writeBatches fill.fresh onBatch size limit done.length st
        = some ⟨.ok (done ++ rows).length, w', toldLast format size onBatch (done ++ rows) st'⟩ ∧
      Handed (.new ⟨none, before⟩ format) (done ++ rows)
        (((done ++ rows).length + size - 1) / size) w' := by
  -- by the turns that are left: a full batch takes one turn and one row at least
  induction limit generalizing done st rows k w with
  | zero => exact absurd hlimit (Nat.not_lt_zero _)
  | succ limit ih =>
    rw [Writer.writeBatches, batches_eq hsize]
    by_cases hnil : rows = []
    · subst hnil
      rw [h.writeNext_none hsize hdone, List.append_nil, if_pos ⟨k, hdone⟩, hdone,
        Nat.mul_div_cancel_left _ hsize]
      exact ⟨w, rfl, hhanded⟩
    by_cases hlt : rows.length < size
    · have hall : (done ++ rows).length = size * k + rows.length := by
        rw [List.length_append, hdone]
      obtain ⟨w₁, hnext, hlater⟩ := h.writeNext_short hdone hnil hlt hhanded
      rw [hnext, if_neg (not_dvd_of_inside hall (List.length_pos_iff.2 hnil) hlt),
        div_of_inside hall hlt, List.length_append]
      exact ⟨w₁, rfl, hlater⟩
    · have hle : size ≤ rows.length := Nat.le_of_not_lt hlt
      obtain ⟨w₁, st₁, hnext, hlater, hyields⟩ := h.writeNext_full hsize hdone hle hhanded
      have hdone₁ : (done ++ rows.take size).length = size * (k + 1) := by
        rw [List.length_append, hdone, List.length_take_of_le hle, Nat.mul_succ]
      have hdrop : (rows.drop size).length = rows.length - size := List.length_drop
      obtain ⟨w', hrun, hhanded'⟩ := ih hyields hdone₁ hlater (by omega)
      rw [List.append_assoc, List.take_append_drop] at hrun hhanded'
      rw [hdone₁, Nat.mul_succ, ← hdone] at hrun
      rw [batches_eq hsize] at hhanded'
      rw [hnext]
      exact ⟨w', hrun, hhanded'⟩

end Yields

end

/-! ## runs that are watched -/

/-- a state, the points that were handed to the filler, and the counts that were reported -/
structure Watched (σ : Type) where
  state : σ
  handed : List Point := []
  reports : List WriteStats := []

section
variable {σ : Type}

namespace Watched

/-- notes what the filler is handed -/
def fill (fill : Filler σ) : Filler (Watched σ) := fun p st =>
  (fill p st.state).map fun (more, q, state) =>
    (more, q, { st with state := state, handed := st.handed ++ [p] })

theorem fill_eq {fill : Filler σ} {st st₁ : σ} {more : Bool} {p q : Point}
    (h : fill p st = some (more, q, st₁)) (handed : List Point) (reports : List WriteStats) :
    Watched.fill fill p ⟨st, handed, reports⟩
      = some (more, q, ⟨st₁, handed ++ [p], reports⟩) := by
  show (fill p st).map _ = _
  rw [h]
  rfl

/-- notes a report -/
def report (onBatch : WriteStats → σ → σ) (stats : WriteStats) (st : Watched σ) : Watched σ :=
  { st with state := onBatch stats st.state, reports := st.reports ++ [stats] }

/-- what is noted makes no difference to the rows -/
theorem leads (fill : Filler σ) (onBatch : WriteStats → σ → σ) :
    Leads state (Watched.fill fill).fresh (report onBatch) fill.fresh onBatch where
  source_eq := fun st => by
    rw [Filler.fresh_eq, Filler.fresh_eq]
    show _ = (((fill {} st.state).map _).map _).map _
    rw [Option.map_map, Option.map_map]
    rfl
  onBatch_eq := fun _ _ => rfl

/-- a run that is watched is the same run -/
theorem writeRows?_eq (fill : Filler σ) (onBatch : WriteStats → σ → σ) (w : Writer)
    (size most : Nat) (st : σ) :
    w.writeRows? fill onBatch size most st
      = (w.writeRows? (Watched.fill fill) (report onBatch) size most ⟨st, [], []⟩).map
          (.map state) := by
  unfold Writer.writeRows?
  by_cases hroom : Writer.hasRoom size
  · rw [if_pos hroom, if_pos hroom, Writer.writeRows_eq, Writer.writeRows_eq]
    exact (leads fill onBatch).writeBatches_eq _ _ _ w ⟨st, [], []⟩
  · rw [if_neg hroom, if_neg hroom]
    rfl

end Watched

section
variable {fill : Filler σ} {onBatch : WriteStats → σ → σ} {format : Format} {size : Nat}
  {done rows : List Point} {st st' : σ} (handed : List Point)

/-- a row more, and a report more where it ends a batch -/
theorem told_watched (p : Point) (rest : List Point) (st : σ) :
    told format size (Watched.report onBatch) (done ++ [p])
        ⟨st, handed, WriteStats.upTo format size (done ++ p :: rest) (done.length / size)⟩
      = ⟨told format size onBatch (done ++ [p]) st, handed,
          WriteStats.upTo format size (done ++ p :: rest) ((done ++ [p]).length / size)⟩ := by
  have hlength : (done ++ [p]).length = done.length + 1 := List.length_append
  have hall : done ++ p :: rest = (done ++ [p]) ++ rest := by rw [List.append_assoc]; rfl
  unfold told
  by_cases hdvd : size ∣ (done ++ [p]).length
  · have hdiv : (done ++ [p]).length / size = done.length / size + 1 := by
      rw [hlength] at hdvd ⊢
      exact Nat.succ_div_of_dvd hdvd
    have htake : (done ++ p :: rest).take (size * (done.length / size + 1)) = done ++ [p] := by
      rw [← hdiv, Nat.mul_div_cancel' hdvd, hall, List.take_left]
    rw [if_pos hdvd, if_pos hdvd, hdiv, WriteStats.upTo_succ, htake]
    rfl
  · have hdiv : (done ++ [p]).length / size = done.length / size := by
      rw [hlength] at hdvd ⊢
      exact Nat.succ_div_of_not_dvd hdvd
    rw [if_neg hdvd, if_neg hdvd, hdiv]

theorem toldLast_watched (hsize : 0 < size) (st : σ) :
    toldLast format size (Watched.report onBatch) rows
        ⟨st, handed, WriteStats.upTo format size rows (rows.length / size)⟩
      = ⟨toldLast format size onBatch rows st, handed,
          WriteStats.upTo format size rows ((rows.length + size - 1) / size)⟩ := by
  unfold toldLast
  rw [batches_eq hsize]
  by_cases hdvd : size ∣ rows.length
  · rw [if_pos hdvd, if_pos hdvd, if_pos hdvd]
  · have hlt := Nat.lt_mul_div_succ rows.length hsize
    have htake : rows.take (size * (rows.length / size + 1)) = rows :=
      List.take_of_length_le (Nat.le_of_lt hlt)
    rw [if_neg hdvd, if_neg hdvd, if_neg hdvd, WriteStats.upTo_succ, htake]
    rfl

/-- a filler that is watched gives the same rows, is handed an empty point each time, and sees a
report after every full batch -/
theorem Yields.watched (h : Yields fill (told format size onBatch) done st rows st') :
    Yields (Watched.fill fill) (told format size (Watched.report onBatch)) done
      ⟨st, handed, WriteStats.upTo format size (done ++ rows) (done.length / size)⟩ rows
      ⟨st', handed ++ List.replicate (rows.length + 1) ({} : Point),
        WriteStats.upTo format size (done ++ rows) ((done ++ rows).length / size)⟩ := by
  induction h generalizing handed with
  | @stop done st st' p hfill =>
    rw [List.append_nil]
    exact .stop (Watched.fill_eq hfill _ _)
  | @row done rows st st₁ st' p hfill hrest ih =>
    have hlater := ih (handed ++ [({} : Point)])
    rw [List.append_assoc, List.append_assoc] at hlater
    refine .row (Watched.fill_eq hfill _ _) ?_
    rw [told_watched]
    exact hlater

end

/-- **Rows in batches.**  A filler that gives `rows` and then says that there is none is handed an
empty point each time.  All its rows are written, there is a report after every full batch and one
more after the rest, and once everything is handed over, the sink has the rows in order.  Neither
earlier rows nor what the filler leaves in a point that is no row are in the way. -/
theorem writeRows_in_batches {fill : Filler σ} {onBatch : WriteStats → σ → σ} (format : Format)
    {size most : Nat} {st st' : σ} {rows : List Point} (hroom : size * 128 < Word.half)
    (h : Yields fill (told format (max size 1) onBatch) [] st rows st')
    (hmost : rows.length ≤ most) (before : ByteArray) :
    ∃ (out : Written (Watched σ)) (w : Writer),
      (Writer.new ⟨none, before⟩ format).writeRows? fill onBatch size most st
        = some (out.map Watched.state) ∧
      (Writer.new ⟨none, before⟩ format).writeRows? (Watched.fill fill) (Watched.report onBatch) size
        most ⟨st, [], []⟩ = some out ∧
      out.result = .ok rows.length ∧
      out.state.state = toldLast format (max size 1) onBatch rows st' ∧
      out.state.handed = List.replicate (rows.length + 1) {} ∧
      out.state.reports.length = rows.length ⌈/⌉ max size 1 ∧
      (∀ i stats, out.state.reports[i]? = some stats →
        stats = .ofRows format (rows.take ((i + 1) * max size 1)) (i + 1) ∧
        (rows.length < UInt64.size →
          stats.points.toNat = min ((i + 1) * max size 1) rows.length)) ∧
      out.writer.flush = (.ok (), w) ∧
      w.out.sink.bytes = before ++ format.encodeAll rows ∧
      w.stats = .ofRows format rows (rows.length ⌈/⌉ max size 1) ∧
      ((format.encodeAll rows).size < UInt64.size →
        w.stats.points.toNat = rows.length ∧
        w.stats.batches.toNat = rows.length ⌈/⌉ max size 1 ∧
        w.stats.bytes.toNat = (format.encodeAll rows).size) := by
  have hsize : 0 < max size 1 := Nat.le_max_right _ _
  have hnone : Handed (.new ⟨none, before⟩ format) [] 0 (.new ⟨none, before⟩ format) :=
    Handed.refl rfl
  have hwatched := h.watched []
  rw [List.nil_append, List.nil_append, List.length_nil, Nat.zero_div] at hwatched
  obtain ⟨w', hrun, hhanded⟩ :=
    hwatched.writeBatches hsize (Nat.mul_zero _).symm hnone (Nat.lt_succ_of_le hmost)
  rw [List.nil_append, toldLast_watched _ hsize] at hrun
  rw [List.nil_append] at hhanded
  obtain ⟨w, hflush, hbytes, hstats⟩ := hhanded.flush
  have hwrite : (Writer.new ⟨none, before⟩ format).writeRows? (Watched.fill fill)
      (Watched.report onBatch) size most ⟨st, [], []⟩
        = some ⟨.ok rows.length, w', toldLast format (max size 1) onBatch rows st',
            List.replicate (rows.length + 1) {},
            WriteStats.upTo format (max size 1) rows ((rows.length + max size 1 - 1) / max size 1)⟩ := by
    rw [Writer.writeRows?, if_pos (Writer.hasRoom_of_lt hroom), Writer.writeRows_eq]
    exact hrun
  rw [Nat.ceilDiv_eq_add_pred_div]
  refine ⟨_, w, ?_, hwrite, rfl, rfl, rfl, ?_, ?_, hflush, hbytes, hstats.trans hhanded.stats_new, ?_⟩
  · rw [Watched.writeRows?_eq, hwrite]
    rfl
  · exact WriteStats.length_upTo ..
  · intro i stats hi
    obtain ⟨hlt, -⟩ := List.getElem?_eq_some_iff.1 hi
    rw [WriteStats.length_upTo] at hlt
    rw [WriteStats.getElem?_upTo _ _ _ hlt, Nat.mul_comm] at hi
    obtain rfl := Option.some.inj hi
    refine ⟨rfl, fun hsmall => ?_⟩
    show (rows.take ((i + 1) * max size 1)).length.toUInt64.toNat = _
    rw [List.length_take]
    exact UInt64.toNat_ofNat_of_lt' (Nat.lt_of_le_of_lt (Nat.min_le_right _ _) hsmall)
  · intro hsmall
    rw [hstats, hhanded.stats_new]
    exact WriteStats.ofRows_exact hsmall (batches_le hsize)

end

/-- so many rows; it writes into every point, also into one that is no row, and keeps the number of
batches that it was told -/
def countdown : Filler (Nat × UInt64)
  | p, (0, batches) => some (false, { p with measurement := "spoiled" }, (0, batches))
  | p, (n + 1, batches) => some (true, { p with measurement := p.measurement ++ "row" }, (n, batches))

/-- three rows in batches of two: a report of two rows, and one of all three -/
theorem writeRows_in_batches_countdown : 2 * 128 < Word.half ∧
    Yields countdown (told .line (max 2 1) fun stats (n, _) => (n, stats.batches)) [] (3, 0)
      [{ measurement := "row" }, { measurement := "row" }, { measurement := "row" }] (0, 1) ∧
    ∃ (out : Written (Watched (Nat × UInt64))) (w : Writer),
      (Writer.new {} .line).writeRows? countdown (fun stats (n, _) => (n, stats.batches)) 2 3 (3, 0)
        = some (out.map Watched.state) ∧
      out.result = .ok 3 ∧ out.state.state = (0, 2) ∧ out.state.reports.length = 2 ∧
      (∀ stats, out.state.reports[1]? = some stats → stats.points.toNat = 3) ∧
      out.writer.flush = (.ok (), w) ∧ w.stats.batches = 2 ∧
      w.out.sink.bytes = .empty ++ Format.line.encodeAll
        [{ measurement := "row" }, { measurement := "row" }, { measurement := "row" }] := by
  have hroom : 2 * 128 < Word.half := by decide
  have hyields : Yields countdown (told .line (max 2 1) fun stats (n, _) => (n, stats.batches)) []
      (3, 0) [{ measurement := "row" }, { measurement := "row" }, { measurement := "row" }] (0, 1) :=
    .row rfl (.row rfl (.row rfl (.stop rfl)))
  obtain ⟨out, w, hplain, -, hresult, hstate, -, hcount, hreports, hflush, hbytes, hstats, -⟩ :=
    writeRows_in_batches .line hroom hyields (Nat.le_refl 3) .empty
  refine ⟨hroom, hyields, out, w, hplain, hresult, hstate, hcount, ?_, hflush, ?_, hbytes⟩
  · intro stats hi
    exact (hreports 1 stats hi).2 (by decide)
  · rw [hstats]
    rfl

end Telemetry
