import Telemetry.Output.Writer

/-!
# Rows in batches

What a writer to a sink without a limit makes of a source of rows, whatever the source is.

* `encodeAll`            the text of some rows;
* `Handed w rows n w'`   a writer after `n` more batches with these rows;
* `Gives`                the rows that a source gives, and the batch that these make;
* `Supply`               a source of `N` rows: its rows, and what a report does to it;
* `Stops`, `Breaks`      after the last row it says that there is none, or is cut off;
* `writeNext_full`, `writeNext_short`, `writeNext_none`, `writeNext_lost`  the turns of the loop;
* `Runs`                 a run of the loop with the writer and the state right after every report;
* `Supply.runs`          the run of a source, its batches one by one;
* `Supply.writeBatches_lost`  a source that breaks has no run.
-/

namespace Telemetry

namespace Format

/-- the rows in one text -/
def textAll (format : Format) (rows : List Point) : String := String.join (rows.map format.encode)

/-- the bytes of some rows -/
def encodeAll (format : Format) (rows : List Point) : ByteArray := (format.textAll rows).toUTF8

theorem textAll_cons (format : Format) (p : Point) (rows : List Point) :
    format.textAll (p :: rows) = format.encode p ++ format.textAll rows := by
  rw [textAll, List.map_cons, String.join_cons, textAll]

theorem encodeAll_nil (format : Format) : format.encodeAll [] = .empty := rfl

theorem encodeAll_append (format : Format) (rows more : List Point) :
    format.encodeAll (rows ++ more) = format.encodeAll rows ++ format.encodeAll more := by
  unfold encodeAll textAll
  rw [List.map_append, String.join_append]
  exact String.toByteArray_append

/-- every row ends in a line feed -/
theorem encode_ne_empty (format : Format) (p : Point) : format.encode p ≠ "" := by
  intro h
  have hchars := congrArg String.toList h
  cases format with
  | line =>
    have hline : p.lineChars ++ ['\n'] = [] := by
      rwa [encode, Point.lineText, String.toList_ofList] at hchars
    exact List.append_ne_nil_of_right_ne_nil _ (List.cons_ne_nil _ _) hline
  | json =>
    rw [encode, String.toList_append] at hchars
    exact List.append_ne_nil_of_right_ne_nil _ (List.cons_ne_nil _ _) hchars

theorem isEmpty_encodeAll (format : Format) {rows : List Point} (h : rows ≠ []) :
    (format.encodeAll rows).isEmpty = false := by
  cases rows with
  | nil => exact absurd rfl h
  | cons p rows =>
    have htext : format.textAll (p :: rows) ≠ "" := by
      rw [textAll_cons]
      intro hempty
      exact format.encode_ne_empty p (String.append_eq_empty_iff.1 hempty).1
    have hsize : (format.encodeAll (p :: rows)).size ≠ 0 := by
      intro hzero
      exact htext (String.utf8ByteSize_eq_zero_iff.1 hzero)
    exact beq_eq_false_iff_ne.2 hsize

/-- every row has a byte at least -/
theorem length_le_encodeAll (format : Format) (rows : List Point) :
    rows.length ≤ (format.encodeAll rows).size := by
  induction rows with
  | nil => exact Nat.zero_le _
  | cons p rows ih =>
    have hcons : format.encodeAll (p :: rows) = format.encodeAll [p] ++ format.encodeAll rows :=
      format.encodeAll_append [p] rows
    have hone := format.isEmpty_encodeAll (List.cons_ne_nil p [])
    have hpos : (format.encodeAll [p]).size ≠ 0 := beq_eq_false_iff_ne.1 hone
    rw [hcons, ByteArray.size_append, List.length_cons]
    omega

end Format

/-! ## a sink without a limit -/

theorem Sink.write_unlimited {s : Sink} (h : s.limit = none) (chunk : ByteArray) :
    s.write chunk = (⟨none, s.bytes ++ chunk⟩, true) := by
  have hroom : s.room chunk.size = chunk.size := by rw [room, h]
  rw [write, if_pos hroom, h]

namespace Buffered

theorem flush_unlimited {b : Buffered} (h : b.sink.limit = none) :
    b.flush = ({ b with pending := .empty, sink := ⟨none, b.accepted⟩ }, true) := by
  have hroom : b.sink.room b.pending.size = b.pending.size := by rw [Sink.room, h]
  unfold flush
  rw [Sink.write_unlimited h]
  simp only [hroom, ByteArray.extract_same]
  rfl

theorem store_unlimited {b : Buffered} (h : b.sink.limit = none) (bytes : ByteArray) :
    (b.store bytes).2 = true ∧ (b.store bytes).1.sink.limit = none := by
  unfold store
  split
  · exact ⟨rfl, h⟩
  · rw [Sink.write_unlimited h]
    exact ⟨rfl, rfl⟩

theorem write_unlimited {b : Buffered} (h : b.sink.limit = none) (bytes : ByteArray) :
    (b.write bytes).2 = true ∧ (b.write bytes).1.sink.limit = none := by
  unfold write
  split
  · exact store_unlimited h bytes
  · rw [flush_unlimited h]
    exact store_unlimited rfl bytes

end Buffered

/-! ## what a writer was handed -/

/-- a writer after some more batches, and the rows of these: it has counted them, and has written or
keeps their bytes -/
structure Handed (w : Writer) (rows : List Point) (batches : Nat) (w' : Writer) : Prop where
  format_eq : w'.format = w.format
  limit_eq : w'.out.sink.limit = none
  accepted_eq : w'.out.accepted = w.out.accepted ++ w.format.encodeAll rows
  points_eq : w'.stats.points = w.stats.points + rows.length.toUInt64
  batches_eq : w'.stats.batches = w.stats.batches + batches.toUInt64
  bytes_eq : w'.stats.bytes = w.stats.bytes + (w.format.encodeAll rows).size.toUInt64

theorem toUInt64_add (m n : Nat) : (m + n).toUInt64 = m.toUInt64 + n.toUInt64 := UInt64.ofNat_add m n

namespace Handed
variable {w w₁ w₂ : Writer} {rows more : List Point} {m n : Nat}

theorem refl (h : w.out.sink.limit = none) : Handed w [] 0 w where
  format_eq := rfl
  limit_eq := h
  accepted_eq := by rw [Format.encodeAll_nil, ByteArray.append_empty]
  points_eq := (UInt64.add_zero _).symm
  batches_eq := (UInt64.add_zero _).symm
  bytes_eq := (UInt64.add_zero _).symm

theorem trans (h : Handed w rows m w₁) (h' : Handed w₁ more n w₂) :
    Handed w (rows ++ more) (m + n) w₂ where
  format_eq := by rw [h'.format_eq, h.format_eq]
  limit_eq := h'.limit_eq
  accepted_eq := by
    rw [h'.accepted_eq, h.accepted_eq, h.format_eq, Format.encodeAll_append,
      ByteArray.append_assoc]
  points_eq := by
    rw [h'.points_eq, h.points_eq, List.length_append, toUInt64_add, UInt64.add_assoc]
  batches_eq := by rw [h'.batches_eq, h.batches_eq, toUInt64_add, UInt64.add_assoc]
  bytes_eq := by
    rw [h'.bytes_eq, h.bytes_eq, h.format_eq, Format.encodeAll_append, ByteArray.size_append,
      toUInt64_add, UInt64.add_assoc]

theorem points_take (h : Handed w (rows.take n) 1 w₁) (hpoints : w.stats.points = m.toUInt64)
    (hle : n ≤ rows.length) : w₁.stats.points = (m + n).toUInt64 := by
  rw [h.points_eq, hpoints, List.length_take_of_le hle, toUInt64_add]

theorem accepted_new (sink : Sink) (format : Format) :
    (Writer.new sink format).out.accepted = sink.bytes := ByteArray.append_empty

/-- once nothing is pending, a sink that was new has the bytes of the rows -/
theorem flush {before : ByteArray} {format : Format}
    (h : Handed (Writer.new ⟨none, before⟩ format) rows m w₁) :
    ∃ w₂, w₁.flush = (.ok (), w₂) ∧
      w₂.out.sink.bytes = before ++ format.encodeAll rows ∧ w₂.stats = w₁.stats := by
  have haccepted := h.accepted_eq
  rw [accepted_new] at haccepted
  refine ⟨{ w₁ with out := { w₁.out with pending := .empty, sink := ⟨none, w₁.out.accepted⟩ } }, ?_,
    haccepted, rfl⟩
  unfold Writer.flush
  rw [Buffered.flush_unlimited h.limit_eq]
  rfl

end Handed

theorem Writer.writeBatch_handed {w : Writer} (hw : w.out.sink.limit = none) {rows : List Point}
    (hrows : rows ≠ []) :
    ∃ w₁, w.writeBatch (w.format.encodeAll rows) rows.length.toUInt64 = (.ok (), w₁) ∧
      Handed w rows 1 w₁ := by
  obtain ⟨hwhole, hlimit⟩ := Buffered.write_unlimited hw (w.format.encodeAll rows)
  have haccepted := Buffered.accepted_write hwhole
  unfold writeBatch
  rw [w.format.isEmpty_encodeAll hrows]
  generalize w.out.write (w.format.encodeAll rows) = written at *
  obtain ⟨out, whole⟩ := written
  obtain rfl : whole = true := hwhole
  exact ⟨_, rfl, rfl, hlimit, haccepted, rfl, rfl, rfl⟩

/-! ## sources of rows -/

section
variable {τ : Type}

namespace Writer

theorem hasRoom_of_lt {size : Nat} (h : size * 128 < Word.half) : hasRoom size = true := by
  unfold hasRoom bytesPerRow
  rw [Memory.fits_iff]
  unfold Word.half at h ⊢
  omega

variable {source : RowSource τ} {size : Nat} {st st₁ : τ} {more : Bool}
  (onBatch : WriteStats → τ → τ)

/-- a batch with rows is written whole, counted and reported -/
theorem writeNext_handed (w : Writer) (hw : w.out.sink.limit = none) {taken : List Point}
    (htaken : taken ≠ [])
    (hbatch : Batch.next source w.format size st
      = some ⟨w.format.textAll taken, taken.length, more, st₁⟩) :
    ∃ w₁, w.writeNext source onBatch size st
        = some (⟨.ok taken.length, w₁, onBatch w₁.stats st₁⟩, more) ∧ Handed w taken 1 w₁ := by
  obtain ⟨w₁, hwrite, hhanded⟩ := Writer.writeBatch_handed hw htaken
  have hwrite : w.writeBatch (w.format.textAll taken).toUTF8 taken.length.toUInt64
      = (.ok (), w₁) := hwrite
  have hlength : taken.length ≠ 0 := fun h => htaken (List.length_eq_zero_iff.1 h)
  refine ⟨w₁, ?_, hhanded⟩
  unfold Writer.writeNext
  rw [hbatch]
  simp only [Option.map_some, if_neg hlength, hwrite]

/-- a batch without rows is neither written nor reported -/
theorem writeNext_empty (w : Writer) {text : String}
    (hbatch : Batch.next source w.format size st = some ⟨text, 0, more, st₁⟩) :
    w.writeNext source onBatch size st = some (⟨.ok 0, w, st₁⟩, false) := by
  unfold Writer.writeNext
  rw [hbatch]
  rfl

/-- a batch that is cut off is not written -/
theorem writeNext_lost (w : Writer) (hbatch : Batch.next source w.format size st = none) :
    w.writeNext source onBatch size st = none := by
  unfold Writer.writeNext
  rw [hbatch]
  rfl

end Writer

/-- from one state to another, a source gives some rows -/
inductive Gives (source : RowSource τ) : τ → List Point → τ → Prop where
  | nil (st : τ) : Gives source st [] st
  | row {st st₁ st' : τ} {p : Point} {rows : List Point} (h : source st = some (some p, st₁))
    (hrest : Gives source st₁ rows st') : Gives source st (p :: rows) st'

namespace Gives
variable {source : RowSource τ} {st st₁ st' : τ} {taken : List Point} {size : Nat}

/-- rows that are collected one by one, for as many further rows as there is place for -/
theorem collect (h : Gives source st taken st₁) (format : Format) (more : Nat) (text : String)
    (n : Nat) :
    Batch.collect source format (taken.length + more) ⟨text, n, true, st⟩
      = Batch.collect source format more
          ⟨text ++ format.textAll taken, n + taken.length, true, st₁⟩ := by
  induction h generalizing text n with
  | nil st =>
    show _ = Batch.collect source format more ⟨text ++ "", n, true, st⟩
    rw [String.append_empty, List.length_nil, Nat.zero_add]
  | @row st st₁ st' p rows h hrest ih =>
    rw [List.length_cons, Nat.add_right_comm, Batch.collect, h]
    show Batch.collect source format (rows.length + more)
      ⟨text ++ format.encode p, n + 1, true, st₁⟩ = _
    rw [ih, Format.textAll_cons, String.append_assoc, Nat.add_assoc, Nat.add_comm 1]

/-- the next batch, by what is collected after the rows taken -/
theorem next_eq (h : Gives source st taken st₁) (format : Format) (more : Nat) :
    Batch.next source format (taken.length + more) st
      = Batch.collect source format more ⟨format.textAll taken, taken.length, true, st₁⟩ := by
  have hcollect := h.collect format more "" 0
  rwa [String.empty_append, Nat.zero_add] at hcollect

theorem next_full (h : Gives source st taken st₁) (format : Format) :
    Batch.next source format taken.length st
      = some ⟨format.textAll taken, taken.length, true, st₁⟩ := h.next_eq format 0

theorem next_short (h : Gives source st taken st₁) (format : Format)
    (hstop : source st₁ = some (none, st')) (hlt : taken.length < size) :
    Batch.next source format size st
      = some ⟨format.textAll taken, taken.length, false, st'⟩ := by
  obtain ⟨more, rfl⟩ := Nat.exists_eq_add_of_lt hlt
  rw [Nat.add_assoc, h.next_eq, Batch.collect, hstop]

theorem next_lost (h : Gives source st taken st₁) (format : Format) (hlost : source st₁ = none)
    (hlt : taken.length < size) : Batch.next source format size st = none := by
  obtain ⟨more, rfl⟩ := Nat.exists_eq_add_of_lt hlt
  rw [Nat.add_assoc, h.next_eq, Batch.collect, hlost]

end Gives

/-- a source of `N` rows.  `At k rest st` says of a state that it has been told of `k` written rows,
and that the rows `rest` are still to come; `none` stands for a source that has said so itself. -/
structure Supply (source : RowSource τ) (onBatch : WriteStats → τ → τ) (N : Nat)
    (At : Nat → Option (List Point) → τ → Prop) : Prop where
  row : ∀ {k p rows st}, At k (some (p :: rows)) st →
    ∃ st', source st = some (some p, st') ∧ At k (some rows) st'
  note : ∀ {k rest st} (k' : Nat) (stats : WriteStats), At k rest st → k ≤ k' →
    k' + (rest.getD []).length = N → stats.points = k'.toUInt64 → At k' rest (onBatch stats st)

/-- after the last row a source says that there is none any more -/
def Stops (source : RowSource τ) (At : Nat → Option (List Point) → τ → Prop) : Prop :=
  ∀ {k st}, At k (some []) st → ∃ st', source st = some (none, st') ∧ At k none st'

/-- after the last row a source is cut off when it is asked for one more -/
def Breaks (source : RowSource τ) (At : Nat → Option (List Point) → τ → Prop) : Prop :=
  ∀ {k st}, At k (some []) st → source st = none

namespace Supply
variable {source : RowSource τ} {onBatch : WriteStats → τ → τ} {N size k : Nat}
  {At : Nat → Option (List Point) → τ → Prop} {taken rest rows : List Point} {st : τ} {w : Writer}

/-! ### one turn -/

theorem gives (hs : Supply source onBatch N At) (h : At k (some (taken ++ rest)) st) :
    ∃ st', Gives source st taken st' ∧ At k (some rest) st' := by
  induction taken generalizing st with
  | nil => exact ⟨st, .nil st, h⟩
  | cons p taken ih =>
    obtain ⟨st₁, hsource, hst₁⟩ := hs.row h
    obtain ⟨st', hgives, hst'⟩ := ih hst₁
    exact ⟨st', .row hsource hgives, hst'⟩

/-- a source gives all its rows -/
theorem gives_all (hs : Supply source onBatch N At) (h : At k (some taken) st) :
    ∃ st', Gives source st taken st' ∧ At k (some []) st' := by
  rw [← List.append_nil taken] at h
  exact hs.gives h

/-- a batch that is not full takes all rows, and the source says that there is none any more -/
theorem next_short (hs : Supply source onBatch N At) (hstops : Stops source At)
    (h : At k (some taken) st) (hlt : taken.length < size) (format : Format) :
    ∃ st', Batch.next source format size st
        = some ⟨format.textAll taken, taken.length, false, st'⟩ ∧ At k none st' := by
  obtain ⟨st₁, hgives, hst₁⟩ := hs.gives_all h
  obtain ⟨st', hsource, hst'⟩ := hstops hst₁
  exact ⟨st', hgives.next_short format hsource hlt, hst'⟩

/-- a batch with rows is written whole, and reported -/
theorem writeNext_of_batch (hs : Supply source onBatch N At) (hw : w.out.sink.limit = none)
    (hpoints : w.stats.points = k.toUInt64) (htaken : taken ≠ []) {more : Bool}
    {rest : Option (List Point)} {st' : τ} (hN : k + taken.length + (rest.getD []).length = N)
    (hbatch : Batch.next source w.format size st
      = some ⟨w.format.textAll taken, taken.length, more, st'⟩) (hst' : At k rest st') :
    ∃ w₁ st₁, w.writeNext source onBatch size st = some (⟨.ok taken.length, w₁, st₁⟩, more) ∧
      Handed w taken 1 w₁ ∧ At (k + taken.length) rest st₁ := by
  obtain ⟨w₁, hnext, hhanded⟩ := w.writeNext_handed onBatch hw htaken hbatch
  refine ⟨w₁, onBatch w₁.stats st', hnext, hhanded, ?_⟩
  refine hs.note _ _ hst' (Nat.le_add_right _ _) hN ?_
  rw [hhanded.points_eq, hpoints, toUInt64_add]

theorem writeNext_full (hs : Supply source onBatch N At) (hsize : 0 < size)
    (hw : w.out.sink.limit = none) (hpoints : w.stats.points = k.toUInt64)
    (hN : k + rows.length = N) (hle : size ≤ rows.length) (h : At k (some rows) st) :
    ∃ w₁ st₁, w.writeNext source onBatch size st = some (⟨.ok size, w₁, st₁⟩, true) ∧
      Handed w (rows.take size) 1 w₁ ∧ At (k + size) (some (rows.drop size)) st₁ := by
  have htaken : (rows.take size).length = size := List.length_take_of_le hle
  have hrest : (rows.drop size).length = rows.length - size := List.length_drop
  have hne : rows.take size ≠ [] := by
    intro hnil
    rw [hnil] at htaken
    exact absurd htaken (Nat.ne_of_lt hsize)
  rw [← List.take_append_drop size rows] at h
  obtain ⟨st', hgives, hst'⟩ := hs.gives h
  have hbatch : Batch.next source w.format size st
      = some ⟨w.format.textAll (rows.take size), (rows.take size).length, true, st'⟩ := by
    rw [← hgives.next_full w.format, htaken]
  have hsum : k + (rows.take size).length + ((some (rows.drop size)).getD []).length = N := by
    show k + (rows.take size).length + (rows.drop size).length = N
    omega
  have hnext := hs.writeNext_of_batch hw hpoints hne hsum hbatch hst'
  rwa [htaken] at hnext

theorem writeNext_short (hs : Supply source onBatch N At) (hstops : Stops source At)
    (hw : w.out.sink.limit = none) (hpoints : w.stats.points = k.toUInt64)
    (hN : k + taken.length = N) (htaken : taken ≠ []) (hlt : taken.length < size)
    (h : At k (some taken) st) :
    ∃ w₁ st₁, w.writeNext source onBatch size st = some (⟨.ok taken.length, w₁, st₁⟩, false) ∧
      Handed w taken 1 w₁ ∧ At N none st₁ := by
  obtain ⟨st', hbatch, hst'⟩ := hs.next_short hstops h hlt w.format
  have hnone : k + taken.length + ((none : Option (List Point)).getD []).length = N := hN
  obtain ⟨w₁, st₁, hnext, hhanded, hst₁⟩ :=
    hs.writeNext_of_batch hw hpoints htaken hnone hbatch hst'
  rw [hN] at hst₁
  exact ⟨w₁, st₁, hnext, hhanded, hst₁⟩

theorem writeNext_none (hs : Supply source onBatch N At) (hstops : Stops source At)
    (hsize : 0 < size) (h : At k (some []) st) :
    ∃ st₁, w.writeNext source onBatch size st = some (⟨.ok 0, w, st₁⟩, false) ∧
      At k none st₁ := by
  obtain ⟨st₁, hbatch, hst₁⟩ := hs.next_short hstops h hsize w.format
  exact ⟨st₁, w.writeNext_empty onBatch hbatch, hst₁⟩

/-- a batch that is not full asks for one row too many -/
theorem writeNext_lost (hs : Supply source onBatch N At) (hbreaks : Breaks source At)
    (hlt : rows.length < size) (h : At k (some rows) st) :
    w.writeNext source onBatch size st = none := by
  obtain ⟨st', hgives, hst'⟩ := hs.gives_all h
  exact w.writeNext_lost onBatch (hgives.next_lost w.format (hbreaks hst') hlt)

/-- what one turn of the loop comes to, by the rows that are still to come -/
inductive Turn (At : Nat → Option (List Point) → τ → Prop) (N size k : Nat) (w : Writer)
    (rows : List Point) (next : Option (Written τ × Bool)) : Prop where
  | none {st' : τ} (hrows : rows = []) (hnext : next = some (⟨.ok 0, w, st'⟩, false))
    (hst' : At N none st')
  | short {w₁ : Writer} {st₁ : τ} (hrows : rows ≠ []) (hlt : rows.length < size)
    (hnext : next = some (⟨.ok rows.length, w₁, st₁⟩, false)) (hhanded : Handed w rows 1 w₁)
    (hst₁ : At N none st₁)
  | full {w₁ : Writer} {st₁ : τ} (hle : size ≤ rows.length)
    (hnext : next = some (⟨.ok size, w₁, st₁⟩, true)) (hhanded : Handed w (rows.take size) 1 w₁)
    (hst₁ : At (k + size) (some (rows.drop size)) st₁)

theorem turn (hs : Supply source onBatch N At) (hstops : Stops source At) (hsize : 0 < size)
    (hw : w.out.sink.limit = none) (hpoints : w.stats.points = k.toUInt64)
    (hN : k + rows.length = N) (h : At k (some rows) st) :
    Turn At N size k w rows (w.writeNext source onBatch size st) := by
  by_cases hrows : rows = []
  · subst hrows
    obtain ⟨st', hnext, hst'⟩ := hs.writeNext_none hstops hsize h
    obtain rfl : k = N := hN
    exact .none rfl hnext hst'
  by_cases hlt : rows.length < size
  · obtain ⟨w₁, st₁, hnext, hhanded, hst₁⟩ :=
      hs.writeNext_short hstops hw hpoints hN hrows hlt h
    exact .short hrows hlt hnext hhanded hst₁
  · have hle : size ≤ rows.length := Nat.le_of_not_lt hlt
    obtain ⟨w₁, st₁, hnext, hhanded, hst₁⟩ := hs.writeNext_full hsize hw hpoints hN hle h
    exact .full hle hnext hhanded hst₁

end Supply

/-! ### all batches -/

/-- a batch more for `size` rows more -/
theorem batches_add {n size : Nat} (hsize : 0 < size) :
    (n + size + size - 1) / size = (n + size - 1) / size + 1 := by
  rw [(by omega : n + size + size - 1 = n + size - 1 + size), Nat.add_div_right _ hsize]

/-- every batch has a row at least -/
theorem batches_le {n size : Nat} (hsize : 0 < size) : (n + size - 1) / size ≤ n := by
  have hmul : n ≤ n * size := Nat.le_mul_of_pos_right n hsize
  refine Nat.le_of_lt_succ ((Nat.div_lt_iff_lt_mul hsize).2 ?_)
  rw [Nat.succ_mul]
  omega

/-- a run of the loop after some rows, with the writer and the state right after every report -/
inductive Runs (source : RowSource τ) (onBatch : WriteStats → τ → τ) (size : Nat) :
    Nat → Writer → τ → List (Writer × τ) → Written τ → Prop where
  /-- no row came, and nothing is reported -/
  | stopped {n : Nat} {w w₁ : Writer} {st st₁ : τ}
    (h : w.writeNext source onBatch size st = some (⟨.ok 0, w₁, st₁⟩, false)) :
    Runs source onBatch size n w st [] ⟨.ok n, w₁, st₁⟩
  /-- the batch is the last one -/
  | last {n m : Nat} {w w₁ : Writer} {st st₁ : τ} (hm : m ≠ 0)
    (h : w.writeNext source onBatch size st = some (⟨.ok m, w₁, st₁⟩, false)) :
    Runs source onBatch size n w st [(w₁, st₁)] ⟨.ok (n + m), w₁, st₁⟩
  | more {n m : Nat} {w w₁ : Writer} {st st₁ : τ} {reports : List (Writer × τ)} {out : Written τ}
    (h : w.writeNext source onBatch size st = some (⟨.ok m, w₁, st₁⟩, true))
    (hrest : Runs source onBatch size (n + m) w₁ st₁ reports out) :
    Runs source onBatch size n w st ((w₁, st₁) :: reports) out
  /-- the sink is full, and nothing is reported -/
  | failed {n : Nat} {w w₁ : Writer} {st st₁ : τ} {e : Fault} {more : Bool}
    (h : w.writeNext source onBatch size st = some (⟨.error e, w₁, st₁⟩, more)) :
    Runs source onBatch size n w st [] ⟨.error e, w₁, st₁⟩

/-- the loop makes the run, if it may take one turn more than there are reports -/
theorem Runs.writeBatches {source : RowSource τ} {onBatch : WriteStats → τ → τ} {size n limit : Nat}
    {w : Writer} {st : τ} {reports : List (Writer × τ)} {out : Written τ}
    (h : Runs source onBatch size n w st reports out) (hlimit : reports.length < limit) :
    w.writeBatches source onBatch size limit n st = some out := by
  induction h generalizing limit with
  | stopped h =>
    obtain ⟨l, rfl⟩ := Nat.exists_eq_succ_of_ne_zero (Nat.ne_of_gt hlimit)
    rw [Writer.writeBatches, h]
    rfl
  | last hm h =>
    obtain ⟨l, rfl⟩ := Nat.exists_eq_succ_of_ne_zero (Nat.ne_of_gt (Nat.zero_lt_of_lt hlimit))
    rw [Writer.writeBatches, h]
  | more h hrest ih =>
    obtain ⟨l, rfl⟩ := Nat.exists_eq_succ_of_ne_zero (Nat.ne_of_gt (Nat.zero_lt_of_lt hlimit))
    rw [Writer.writeBatches, h]
    exact ih (Nat.lt_of_succ_lt_succ hlimit)
  | failed h =>
    obtain ⟨l, rfl⟩ := Nat.exists_eq_succ_of_ne_zero (Nat.ne_of_gt hlimit)
    rw [Writer.writeBatches, h]

namespace Supply
variable {source : RowSource τ} {onBatch : WriteStats → τ → τ} {N size k : Nat}
  {At : Nat → Option (List Point) → τ → Prop} {rows : List Point} {st : τ} {w : Writer}

/-- right after report number `i`, counted from zero, the writer was handed the rows of the first
`i + 1` batches, and the source was told of just these -/
def Told (At : Nat → Option (List Point) → τ → Prop) (N size k : Nat) (w : Writer)
    (rows : List Point) (reports : List (Writer × τ)) : Prop :=
  ∀ (i : Nat) w₁ st₁, reports[i]? = some (w₁, st₁) →
    Handed w (rows.take ((i + 1) * size)) (i + 1) w₁ ∧
    ∃ rest, At (min (k + (i + 1) * size) N) rest st₁

theorem Told.nil : Told At N size k w rows [] := by
  intro i w₁ st₁ hi
  rw [List.getElem?_nil] at hi
  exact absurd hi.symm (Option.some_ne_none _)

theorem Told.cons {w₁ : Writer} {st₁ : τ} {rest : Option (List Point)}
    {reports : List (Writer × τ)} (hN : k + size ≤ N) (hhanded : Handed w (rows.take size) 1 w₁)
    (hst₁ : At (k + size) rest st₁) (h : Told At N size (k + size) w₁ (rows.drop size) reports) :
    Told At N size k w rows ((w₁, st₁) :: reports) := by
  intro i w₂ st₂ hi
  cases i with
  | zero =>
    obtain ⟨rfl, rfl⟩ := Prod.mk.inj (Option.some.inj hi)
    rw [Nat.zero_add, Nat.one_mul, Nat.min_eq_left hN]
    exact ⟨hhanded, rest, hst₁⟩
  | succ i =>
    -- report `i` of the later turns, which started one batch further on
    obtain ⟨hhanded₂, hst₂⟩ := h i w₂ st₂ hi
    have htake : rows.take ((i + 1 + 1) * size)
        = rows.take size ++ (rows.drop size).take ((i + 1) * size) := by
      rw [Nat.succ_mul, Nat.add_comm, List.take_add]
    have hmul : k + (i + 1 + 1) * size = k + size + (i + 1) * size := by
      rw [Nat.succ_mul (i + 1)]
      omega
    rw [htake, hmul, Nat.add_comm (i + 1) 1]
    exact ⟨hhanded.trans hhanded₂, hst₂⟩

/-- a last batch that is not full -/
theorem Told.last {w₁ : Writer} {st₁ : τ} (hN : N ≤ k + size) (hlt : rows.length < size)
    (hhanded : Handed w rows 1 w₁) (hst₁ : At N none st₁) :
    Told At N size k w rows [(w₁, st₁)] := by
  intro i w₂ st₂ hi
  cases i with
  | zero =>
    obtain ⟨rfl, rfl⟩ := Prod.mk.inj (Option.some.inj hi)
    rw [Nat.zero_add, Nat.one_mul, List.take_of_length_le (Nat.le_of_lt hlt), Nat.min_eq_right hN]
    exact ⟨hhanded, none, hst₁⟩
  | succ i =>
    rw [List.getElem?_cons_succ, List.getElem?_nil] at hi
    exact absurd hi.symm (Option.some_ne_none _)

/-- **The run of a source.**  All its rows are written, in order and in full batches but for the last
one, and the source is told after every batch. -/
theorem runs (hs : Supply source onBatch N At) (hstops : Stops source At) (hsize : 0 < size)
    (hw : w.out.sink.limit = none) (hpoints : w.stats.points = k.toUInt64)
    (hN : k + rows.length = N) (h : At k (some rows) st) :
    ∃ reports w' st', Runs source onBatch size k w st reports ⟨.ok N, w', st'⟩ ∧
      Handed w rows reports.length w' ∧ At N none st' ∧
      reports.length = (rows.length + size - 1) / size ∧ Told At N size k w rows reports := by
  -- by the number of rows still to come: a full batch leaves fewer of them to the next turn
  induction hlen : rows.length using Nat.strongRecOn generalizing rows k w st with
  | _ n ih =>
    subst hlen
    cases hs.turn hstops hsize hw hpoints hN h with
    | @none st' hrows hnext hst' =>
      subst hrows
      obtain rfl : k = N := hN
      refine ⟨[], w, st', .stopped hnext, Handed.refl hw, hst', ?_, Told.nil⟩
      rw [List.length_nil, List.length_nil, Nat.zero_add, Nat.div_eq_of_lt (by omega)]
    | @short w₁ st₁ hrows hlt hnext hhanded hst₁ =>
      have hpos : 0 < rows.length := List.length_pos_iff.2 hrows
      have hrun : Runs source onBatch size k w st [(w₁, st₁)] ⟨.ok N, w₁, st₁⟩ :=
        hN ▸ Runs.last (Nat.ne_of_gt hpos) hnext
      refine ⟨_, w₁, st₁, hrun, hhanded, hst₁, ?_, Told.last (by omega) hlt hhanded hst₁⟩
      rw [List.length_singleton, (by omega : rows.length + size - 1 = rows.length - 1 + size),
        Nat.add_div_right _ hsize, Nat.div_eq_of_lt (by omega)]
    | @full w₁ st₁ hle hnext hhanded hst₁ =>
      have hrest : (rows.drop size).length = rows.length - size := List.length_drop
      obtain ⟨reports, w', st', hruns, hlater, hst', hcount, htold⟩ :=
        ih _ (by omega) hhanded.limit_eq (hhanded.points_take hpoints hle) (by omega) hst₁ rfl
      refine ⟨(w₁, st₁) :: reports, w', st', .more hnext hruns, ?_, hst', ?_,
        Told.cons (by omega) hhanded hst₁ htold⟩
      · have hall := hhanded.trans hlater
        rwa [List.take_append_drop, Nat.add_comm 1] at hall
      · rw [List.length_cons, hcount, hrest, ← batches_add hsize, Nat.sub_add_cancel hle]

/-- **The run of a source that breaks.**  Its rows are written, as far as they fill batches; then the
writer asks for one row too many, and there is no answer. -/
theorem writeBatches_lost (hs : Supply source onBatch N At) (hbreaks : Breaks source At)
    (hsize : 0 < size) (hw : w.out.sink.limit = none) (hpoints : w.stats.points = k.toUInt64)
    (hN : k + rows.length = N) (h : At k (some rows) st) {limit : Nat}
    (hlimit : rows.length < limit) (n : Nat) :
    w.writeBatches source onBatch size limit n st = none := by
  -- by the turns that are left: a full batch takes one turn and one row at least
  induction limit generalizing rows k n w st with
  | zero => exact absurd hlimit (Nat.not_lt_zero _)
  | succ limit ih =>
    rw [Writer.writeBatches]
    by_cases hlt : rows.length < size
    · rw [hs.writeNext_lost hbreaks hlt h]
    · have hle : size ≤ rows.length := Nat.le_of_not_lt hlt
      have hrest : (rows.drop size).length = rows.length - size := List.length_drop
      obtain ⟨w₁, st₁, hnext, hhanded, hst₁⟩ := hs.writeNext_full hsize hw hpoints hN hle h
      rw [hnext]
      exact ih hhanded.limit_eq (hhanded.points_take hpoints hle) (by omega) hst₁ (by omega) _

end Supply

end

end Telemetry
