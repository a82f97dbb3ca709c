import Telemetry.CommandLine.Job
import Telemetry.Output.Rows
import Telemetry.Proofs.Fleet.Stored
import Telemetry.Proofs.Output.Batches
import Telemetry.Proofs.Output.Sources

/-!
# Delivering the rows of a fleet

One worker takes all rows of a fleet, writes them in batches, and reports after each batch how many
have been written.  After the last row it asks for one more, and its number is counted too.

* `next_setWritten`, `drain_setWritten`  a report does not change the rows that follow;
* `Delivering`           the state of a fleet on the way, with the rows that are still to come;
* `Built.supply`         a fleet is a source of its rows;
* `stops`, `breaks`      after them it says that there is none, unless the number of that call
                         overflows: then the worker is cut off;
* `writeAll_delivers`    what the sink, the counts and the reports come to, for every batch size;
* `Built.writeAll_lost`  a fleet of so many rows that no number is left for the call after them.
-/

namespace Telemetry.Fleet

open Telemetry.Random

/-! ## reports and rows -/

theorem rowAt_setWritten (f : Fleet) (c : UInt64) (spot : Place) (p : Point) (s : Stream) :
    ((f.setWritten c).rowAt spot p).run s
      = let out := (f.rowAt spot p).run s
        ((out.1.1, out.1.2.setWritten c), out.2) := by
  have hentities : (f.setWritten c).entities = f.entities := rfl
  unfold rowAt
  rw [hentities]
  cases f.entities[spot.entity]? with
  | none => rfl
  | some e =>
    have hinterval : (f.setWritten c).interval = f.interval := rfl
    simp only [hinterval]
    cases (e.advanceTo spot.epoch f.interval).generators[spot.slot]? with
    | none => rfl
    | some g => rfl

theorem next_setWritten (f : Fleet) (c : UInt64) (p : Point) (s : Stream) :
    ((f.setWritten c).next p).run s
      = let out := (f.next p).run s
        ((out.1.1, out.1.2.1, out.1.2.2.setWritten c), out.2) := by
  have hcount : (f.setWritten c).count = f.count.setWritten c := rfl
  have hmade : (f.setWritten c).made = f.made := rfl
  have htotal : (f.setWritten c).total = f.total := rfl
  have hplace : (f.setWritten c).place f.made = f.place f.made := rfl
  rw [next_eq, next_eq, hcount, hmade, htotal, hplace]
  by_cases hpast : f.total < f.made + 1
  · rw [if_pos hpast, if_pos hpast]
    rfl
  · rw [if_neg hpast, if_neg hpast, StateT.run_bind, StateT.run_bind, rowAt_setWritten]
    rfl

theorem drain_setWritten (f : Fleet) (c : UInt64) (n : Nat) (s : Stream) :
    ((f.setWritten c).drain n).run s
      = let out := (f.drain n).run s
        ((out.1.1, out.1.2.setWritten c), out.2) := by
  induction n generalizing f s with
  | zero => rfl
  | succ n ih =>
    rw [drain_succ, next_setWritten, drain_succ]
    simp only [ih]

/-! ## a fleet as a source of rows -/

section
variable {entities : List Entity} {window : Window} {interval : Duration} {f g : Fleet}

/-- a state of a fleet on the way, with the stream and the point that was filled last: `k` rows are
reported as written, and some rows are still to come, or the fleet has said that there are no more -/
def Delivering (entities : List Entity) (f : Fleet) (k : Nat) :
    Option (List Point) → Point × Fleet × Stream → Prop
  | some rows, (_, g, s) => rows.length ≤ f.total.toNat ∧
      Come entities f (f.total.toNat - rows.length) g ∧ g.written.toNat = k ∧
      ((g.drain rows.length).run s).1.1.map (·.2) = rows
  | none, (_, g, _) => Alike f g ∧ g.written.toNat = k

theorem Delivering.alike {k : Nat} {rest : Option (List Point)} {p : Point} {s : Stream}
    (h : Delivering entities f k rest (p, g, s)) : Alike f g ∧ g.written.toNat = k := by
  cases rest with
  | none => exact h
  | some rows =>
    obtain ⟨-, hcome, hwritten, -⟩ := h
    exact ⟨hcome.alike, hwritten⟩

theorem length_map_drain (f : Fleet) (n : Nat) (s : Stream) :
    (((f.drain n).run s).1.1.map (·.2)).length = n := by
  rw [List.length_map, length_drain]

theorem Built.delivering (hb : Built entities window interval f) (p : Point) (s : Stream) :
    Delivering entities f 0 (some (((f.drain f.total.toNat).run s).1.1.map (·.2))) (p, f, s) := by
  have hlength := length_map_drain f f.total.toNat s
  refine ⟨Nat.le_of_eq hlength, ?_, ?_, ?_⟩
  · rw [hlength, Nat.sub_self]
    exact hb.come
  · rw [hb.written_eq, UInt64.toNat_zero]
  · rw [hlength]

/-- the next row, as long as its number is a word -/
theorem reused_run {g h : Fleet} {row : Point} {number : UInt64} {s s' : Stream}
    (hmade : g.made.toNat + 1 < UInt64.size) (hrun : (g.next {}).run s = ((number, row, h), s'))
    (p : Point) :
    filler.reused (p, g, s)
      = some (if number ≤ h.total then some row else none, row, h, s') := by
  have hfill : filler {} (g, s) = some (decide (number ≤ h.total), row, h, s') := by
    simp only [filler, next?_run hmade, hrun]
  rw [Filler.reused_eq, hfill]
  by_cases hbelow : number ≤ h.total
  · rw [decide_eq_true hbelow, if_pos hbelow]
    rfl
  · rw [decide_eq_false hbelow, if_neg hbelow]
    rfl

theorem reused_lost {g : Fleet} (hmade : UInt64.size ≤ g.made.toNat + 1) (p : Point) (s : Stream) :
    filler.reused (p, g, s) = none := by
  have hfill : filler {} (g, s) = none := by
    simp only [filler, next?_lost hmade]
  rw [Filler.reused_eq, hfill]
  rfl

theorem Built.source_row (hb : Built entities window interval f) {k : Nat} {p : Point}
    {rows : List Point} {st : Point × Fleet × Stream}
    (h : Delivering entities f k (some (p :: rows)) st) :
    ∃ st', filler.reused st = some (some p, st') ∧ Delivering entities f k (some rows) st' := by
  obtain ⟨p₀, g, s⟩ := st
  obtain ⟨hle, hcome, hwritten, hrows⟩ := h
  rw [List.length_cons] at hle hcome hrows
  obtain ⟨e, gen, he, hgen⟩ := hb.exists_row (f.total.toNat - (rows.length + 1))
  obtain ⟨number, row, h, s', hrun, hnumber, -, -, hcome'⟩ :=
    hcome.next_below hb (by omega) he hgen {} s
  rw [drain_succ, hrun, List.map_cons] at hrows
  obtain ⟨hp, hdrained⟩ := List.cons.inj hrows
  have hp : row = p := hp
  have htotal := f.total.toNat_lt_size
  have hmade := hcome.made_eq
  have hbelow : number ≤ h.total := by
    rw [hcome'.alike.total, UInt64.le_iff_toNat_le]
    omega
  have hkept : h.written = g.written := by
    have hnext := written_next g {} s
    rwa [hrun] at hnext
  have hnumber : f.total.toNat - (rows.length + 1) + 1 = f.total.toNat - rows.length := by omega
  rw [hnumber] at hcome'
  refine ⟨(row, h, s'), ?_, by omega, hcome', by rw [hkept, hwritten], hdrained⟩
  rw [reused_run (by omega) hrun, if_pos hbelow, hp]

/-- after the last row the fleet says that there is none, if one more call can be counted -/
theorem stops (hcalls : f.total.toNat + 1 < UInt64.size) :
    Stops filler.reused (Delivering entities f) := by
  intro k (p, g, s) h
  obtain ⟨-, hcome, hwritten, -⟩ := h
  rw [List.length_nil, Nat.sub_zero] at hcome
  obtain ⟨hrun, hnumber, hcome'⟩ := hcome.next_past (Nat.le_refl _) hcalls {} s
  have hmade := hcome.made_eq
  have hpast : ¬ g.made + 1 ≤ g.count.total := by
    rw [hcome'.alike.total, UInt64.le_iff_toNat_le]
    omega
  refine ⟨({}, g.count, s), ?_, hcome'.alike, hwritten⟩
  rw [reused_run (by omega) hrun, if_neg hpast]

/-- after the last row the fleet is cut off, if one more call cannot be counted -/
theorem breaks (hcalls : UInt64.size ≤ f.total.toNat + 1) :
    Breaks filler.reused (Delivering entities f) := by
  intro k (p, g, s) h
  obtain ⟨-, hcome, -, -⟩ := h
  rw [List.length_nil, Nat.sub_zero] at hcome
  have hmade := hcome.made_eq
  exact reused_lost (by omega) p s

theorem Delivering.note {k k' : Nat} {rest : Option (List Point)} {st : Point × Fleet × Stream}
    (h : Delivering entities f k rest st) (stats : WriteStats) (hle : k ≤ k')
    (hk : k' ≤ f.total.toNat) (hstats : stats.points = k'.toUInt64) :
    Delivering entities f k' rest (beside noteWritten stats st) := by
  obtain ⟨p, g, s⟩ := st
  have htotal := f.total.toNat_lt_size
  have hword : stats.points.toNat = k' := by rw [hstats, Word.toNat_toUInt64_of_lt (by omega)]
  have hwritten : g.written.toNat = k → (g.setWritten stats.points).written.toNat = k' := by
    intro hw
    show (max g.written stats.points).toNat = k'
    rw [Word.toNat_max, hw, hword, Nat.max_eq_right hle]
  have halike := Alike.setWritten g stats.points
  cases rest with
  | none => exact ⟨h.1.trans halike, hwritten h.2⟩
  | some rows =>
    obtain ⟨hlength, hcome, hk, hrows⟩ := h
    refine ⟨hlength, hcome.frame halike rfl rfl, hwritten hk, ?_⟩
    rw [drain_setWritten]
    exact hrows

/-- **A fleet is a source of its rows.** -/
theorem Built.supply (hb : Built entities window interval f) :
    Supply filler.reused (beside noteWritten) f.total.toNat (Delivering entities f) where
  row := hb.source_row
  note := fun k' stats h hle hN hstats => h.note stats hle (by omega) hstats

/-! ## the job of a fleet -/

section
variable {N size k limit : Nat}
  {At : Nat → Option (List Point) → Point × Fleet × Stream → Prop} {w : Writer} {rows : List Point}
  {p : Point} {s : Stream}

theorem step_points (size : Nat) (w : Writer) (p : Point) (g : Fleet) (s : Stream) :
    (CommandLine.Job.points size w p g s).step
      = CommandLine.Job.piece w .workerLost
          (w.writeNext filler.reused (beside noteWritten) size (p, g, s))
          fun w st => .points size w st.1 st.2.1 st.2.2 := rfl

/-- a job hands over its output piece by piece, and the pieces are the bytes of its writer -/
theorem collect_points (hs : Supply filler.reused (beside noteWritten) N At)
    (hstops : Stops filler.reused At) (hsize : 0 < size) (hw : w.out.sink.limit = none)
    (hpoints : w.stats.points = k.toUInt64) (hN : k + rows.length = N)
    (h : At k (some rows) (p, g, s)) (hlimit : rows.length < limit) (done : ByteArray) :
    CommandLine.Job.collect limit done (.points size w p g s)
      = (done ++ (w.out.accepted ++ w.format.encodeAll rows), none) := by
  induction limit generalizing k w p g s rows done with
  | zero => exact absurd hlimit (Nat.not_lt_zero _)
  | succ limit ih =>
    rw [CommandLine.Job.collect, step_points]
    cases hs.turn hstops hsize hw hpoints hN h with
    | @none st' hrows hnext hst' =>
      rw [hnext]
      show (done ++ w.out.flush.1.sink.bytes, none) = _
      rw [Buffered.flush_unlimited hw, hrows, Format.encodeAll_nil, ByteArray.append_empty]
    | @short w₁ st₁ hrows hlt hnext hhanded hst₁ =>
      rw [hnext]
      show (done ++ w₁.out.flush.1.sink.bytes, none) = _
      rw [Buffered.flush_unlimited hhanded.limit_eq, ← hhanded.accepted_eq]
    | @full w₁ st₁ hle hnext hhanded hst₁ =>
      obtain ⟨p₁, g₁, s₁⟩ := st₁
      have hdrop : (rows.drop size).length = rows.length - size := List.length_drop
      have hlimit₁ : (CommandLine.Job.drain w₁).2.out.sink.limit = none := rfl
      have hpoints₁ : (CommandLine.Job.drain w₁).2.stats.points = (k + size).toUInt64 :=
        hhanded.points_take hpoints hle
      rw [hnext]
      show CommandLine.Job.collect limit (done ++ w₁.out.sink.bytes)
        (.points size (CommandLine.Job.drain w₁).2 p₁ g₁ s₁) = _
      rw [ih hlimit₁ hpoints₁ (by omega) hst₁ (by omega)]
      have hsplit : w.format.encodeAll rows
          = w.format.encodeAll (rows.take size) ++ w₁.format.encodeAll (rows.drop size) := by
        rw [hhanded.format_eq, ← Format.encodeAll_append, List.take_append_drop]
      have haccepted : w.out.accepted ++ w.format.encodeAll rows
          = w₁.out.accepted ++ w₁.format.encodeAll (rows.drop size) := by
        rw [hsplit, hhanded.accepted_eq, ByteArray.append_assoc]
      rw [haccepted]
      show (done ++ w₁.out.sink.bytes ++ (.empty ++ w₁.out.pending ++ w₁.format.encodeAll _), none)
        = (done ++ (w₁.out.sink.bytes ++ w₁.out.pending ++ w₁.format.encodeAll _), none)
      rw [ByteArray.empty_append, ByteArray.append_assoc, ByteArray.append_assoc]

/-- a job of a source that breaks is cut off in the end -/
theorem collect_points_lost (hs : Supply filler.reused (beside noteWritten) N At)
    (hbreaks : Breaks filler.reused At) (hsize : 0 < size) (hw : w.out.sink.limit = none)
    (hpoints : w.stats.points = k.toUInt64) (hN : k + rows.length = N)
    (h : At k (some rows) (p, g, s)) (hlimit : rows.length < limit) (done : ByteArray) :
    (CommandLine.Job.collect limit done (.points size w p g s)).2 = some .workerLost := by
  induction limit generalizing k w p g s rows done with
  | zero => exact absurd hlimit (Nat.not_lt_zero _)
  | succ limit ih =>
    rw [CommandLine.Job.collect, step_points]
    by_cases hlt : rows.length < size
    · rw [hs.writeNext_lost hbreaks hlt h]
      rfl
    · have hle : size ≤ rows.length := Nat.le_of_not_lt hlt
      have hdrop : (rows.drop size).length = rows.length - size := List.length_drop
      obtain ⟨w₁, ⟨p₁, g₁, s₁⟩, hnext, hhanded, hst₁⟩ := hs.writeNext_full hsize hw hpoints hN hle h
      have hpoints₁ : (CommandLine.Job.drain w₁).2.stats.points = (k + size).toUInt64 :=
        hhanded.points_take hpoints hle
      rw [hnext]
      exact ih rfl hpoints₁ (by omega) hst₁ (by omega) _

end

section
variable (hb : Built entities window interval f)
include hb

theorem Built.output_points (hcalls : f.total.toNat + 1 < UInt64.size) (format : Format)
    {size : Nat} (hsize : 0 < size) (s : Stream) :
    (CommandLine.Job.points size (Writer.new {} format) {} f s).output
      = (format.encodeAll (((f.drain f.total.toNat).run s).1.1.map (·.2)), none) := by
  have hlength := length_map_drain f f.total.toNat s
  have hN : 0 + (((f.drain f.total.toNat).run s).1.1.map (·.2)).length = f.total.toNat := by
    rw [Nat.zero_add, hlength]
  have hlimit : (((f.drain f.total.toNat).run s).1.1.map (·.2)).length < f.total.toNat + 1 := by
    omega
  have hw : (Writer.new {} format).out.sink.limit = none := rfl
  have hcollect := collect_points hb.supply (stops hcalls) hsize hw rfl hN (hb.delivering {} s)
    hlimit .empty
  rw [ByteArray.empty_append, Handed.accepted_new, ByteArray.empty_append] at hcollect
  exact hcollect

/-- **Where no number is left for the call after the last row**, the worker is cut off: the writing
has no result, and the job ends with a lost worker. -/
theorem Built.writeAll_lost (hcalls : UInt64.size ≤ f.total.toNat + 1) (format : Format)
    (s : Stream) (size : Nat) :
    (CommandLine.Job.points (max size 1) (Writer.new {} format) {} f s).output.2
        = some .workerLost ∧
      ∀ before, (Writer.new ⟨none, before⟩ format).writeRows? filler noteWritten size
        f.total.toNat (f, s) = none := by
  have hsize : 0 < max size 1 := Nat.le_max_right _ _
  have hlength := length_map_drain f f.total.toNat s
  have hN : 0 + (((f.drain f.total.toNat).run s).1.1.map (·.2)).length = f.total.toNat := by
    rw [Nat.zero_add, hlength]
  have hlimit : (((f.drain f.total.toNat).run s).1.1.map (·.2)).length < f.total.toNat + 1 := by
    omega
  have hstart := hb.delivering {} s
  constructor
  · exact collect_points_lost hb.supply (breaks hcalls) hsize rfl rfl hN hstart hlimit .empty
  · intro before
    unfold Writer.writeRows? Writer.writeRows
    rw [hb.supply.writeBatches_lost (breaks hcalls) hsize rfl rfl hN hstart hlimit 0]
    exact ite_self _

end

theorem zero_add_toUInt64 (w : UInt64) : 0 + w.toNat.toUInt64 = w := by
  show 0 + UInt64.ofNat w.toNat = w
  rw [UInt64.ofNat_toNat, UInt64.zero_add]

/-- once all rows are stored, `now` is the end of the window -/
theorem Built.now_of_written (hb : Built entities window interval f) (ha : Alike f g)
    (hwritten : g.written.toNat = f.total.toNat) : g.now = window.stop := by
  have hp : 0 < entities.length * f.slots.toNat := Nat.mul_pos hb.entities_pos hb.slots_pos
  have hepochs : g.written.toNat / (entities.length * f.slots.toNat) = f.epochs.toNat := by
    rw [hwritten, hb.total_eq, hb.rows_eq, Nat.mul_div_cancel_left _ hp]
  rw [← Int64.toInt_inj, hb.toInt_now ha, hepochs, boundary, if_pos (Nat.le_refl _)]

/-- **The delivery of all rows** of a fresh fleet by one worker, in batches of any size.  The sink
holds the rows in order, each once, whatever the size; the counts are those of all rows; and after
every report the fleet knows just the rows that the writer was handed.  The worker asks once more
than there are rows, and these calls are counted by a word. -/
theorem writeAll_delivers (hacc : ofEntities entities window interval = .ok f)
    (hc : Countable entities) (hcalls : f.total.toNat + 1 < UInt64.size) (format : Format)
    (s : Stream) :
    ∃ rows f₁ s₁, (f.drain f.total.toNat).run s = ((rows, f₁), s₁) ∧
      rows.map (·.1.toNat) = (List.range f.total.toNat).map (· + 1) ∧
      ∀ size : Nat, size * 128 < Word.half →
        (CommandLine.Job.points (max size 1) (Writer.new {} format) {} f s).output
          = (format.encodeAll (rows.map (·.2)), none) ∧
        ∀ before : ByteArray, ∃ reports w' p' f' s' w'',
          (Writer.new ⟨none, before⟩ format).writeRows? filler noteWritten size f.total.toNat (f, s)
            = some ⟨.ok f.total.toNat, w', (f', s')⟩ ∧
          w'.flush = (.ok (), w'') ∧
          w''.out.sink.bytes = before ++ format.encodeAll (rows.map (·.2)) ∧
          w''.stats.points = f.total ∧
          w''.stats.bytes = (format.encodeAll (rows.map (·.2))).size.toUInt64 ∧
          f'.written = f.total ∧ f'.now = window.stop ∧
          Runs filler.reused (beside noteWritten) (max size 1) 0 (Writer.new ⟨none, before⟩ format)
            ({}, f, s) reports ⟨.ok f.total.toNat, w', (p', f', s')⟩ ∧
          reports.length = (f.total.toNat + max size 1 - 1) / max size 1 ∧
          ∀ (i : Nat) w₁ p₁ g s₁, reports[i]? = some (w₁, p₁, g, s₁) →
            w₁.out.accepted
              = before ++ format.encodeAll ((rows.map (·.2)).take ((i + 1) * max size 1)) ∧
            w₁.stats.points = g.written ∧
            g.written.toNat = ((rows.map (·.2)).take ((i + 1) * max size 1)).length := by
  have hb := built_of_ofEntities hacc hc
  have houtput : ∀ size, 0 < size →
      (CommandLine.Job.points size (Writer.new {} format) {} f s).output
        = (format.encodeAll (((f.drain f.total.toNat).run s).1.1.map (·.2)), none) :=
    fun size hsize => hb.output_points hcalls format hsize s
  have hnumbers := hb.numbers_drain s
  have hstart := hb.delivering {} s
  have hlength := length_map_drain f f.total.toNat s
  generalize (f.drain f.total.toNat).run s = drained at houtput hnumbers hstart hlength ⊢
  obtain ⟨⟨rows, f₁⟩, s₁⟩ := drained
  refine ⟨rows, f₁, s₁, rfl, hnumbers, ?_⟩
  intro size hroom
  have hsize : 0 < max size 1 := by omega
  refine ⟨houtput _ hsize, ?_⟩
  intro before
  have hw : (Writer.new ⟨none, before⟩ format).out.sink.limit = none := rfl
  have hN : 0 + (rows.map (·.2)).length = f.total.toNat := by rw [Nat.zero_add, hlength]
  obtain ⟨reports, w', ⟨p', f', s'⟩, hruns, hhanded, hst', hcount, htold⟩ :=
    hb.supply.runs (stops hcalls) hsize hw rfl hN hstart
  rw [hlength] at hcount
  have hlimit : reports.length < f.total.toNat + 1 := by
    rw [hcount]
    exact Nat.lt_succ_of_le (batches_le hsize)
  obtain ⟨w'', hflush, hbytes, hstats⟩ := hhanded.flush
  obtain ⟨halike, hwritten⟩ := hst'.alike
  refine ⟨reports, w', p', f', s', w'', ?_, hflush, hbytes, ?_, ?_, UInt64.toNat_inj.1 hwritten,
    hb.now_of_written halike hwritten, hruns, hcount, ?_⟩
  · rw [Writer.writeRows?, if_pos (Writer.hasRoom_of_lt hroom), Writer.writeRows,
      hruns.writeBatches hlimit]
    rfl
  · rw [hstats, hhanded.points_eq, hlength]
    exact zero_add_toUInt64 f.total
  · rw [hstats, hhanded.bytes_eq]
    exact UInt64.zero_add _
  · intro i w₁ p₁ g s₂ hi
    obtain ⟨hhanded₁, rest, hst₁⟩ := htold i w₁ (p₁, g, s₂) hi
    obtain ⟨-, hwritten₁⟩ := hst₁.alike
    have hhandedBytes := hhanded₁.accepted_eq
    rw [Handed.accepted_new] at hhandedBytes
    have hwritten₂ : g.written.toNat = ((rows.map (·.2)).take ((i + 1) * max size 1)).length := by
      rw [hwritten₁, List.length_take, hlength, Nat.zero_add]
    refine ⟨hhandedBytes, ?_, hwritten₂⟩
    rw [hhanded₁.points_eq, ← hwritten₂]
    exact zero_add_toUInt64 g.written

/-- six rows of two hosts in batches of four: two reports, the second of all six rows -/
theorem writeAll_delivers_two_hosts :
    ∃ f, ofEntities twoHosts ⟨0, 3000000000⟩ (.ofSeconds 1) = .ok f ∧
      ∃ rows : List (UInt64 × Point), rows.length = 6 ∧
        ∃ (reports : List (Writer × Point × Fleet × Stream)) (w' : Writer) (f' : Fleet)
          (s' : Stream) (w'' : Writer),
          (Writer.new ⟨none, .empty⟩ .line).writeRows? filler noteWritten 4 f.total.toNat (f, ⟨1⟩)
            = some ⟨.ok f.total.toNat, w', (f', s')⟩ ∧
          w'.flush = (.ok (), w'') ∧
          w''.out.sink.bytes = .empty ++ Format.line.encodeAll (rows.map (·.2)) ∧
          f'.now = 3000000000 ∧ reports.length = 2 ∧
          ∀ w₁ p₁ g s₁, reports[1]? = some (w₁, p₁, g, s₁) → g.written.toNat = 6 := by
  obtain ⟨f, hacc, htotal⟩ := accepted_twoHosts
  have hcalls : f.total.toNat + 1 < UInt64.size := by rw [htotal]; decide
  obtain ⟨rows, f₁, s₁, -, hnumbers, hsizes⟩ :=
    writeAll_delivers hacc countable_twoHosts hcalls .line ⟨1⟩
  obtain ⟨-, hdelivers⟩ := hsizes 4 (by decide)
  obtain ⟨reports, w', -, f', s', w'', hwrite, hflush, hbytes, -, -, -, hnow, -, hcount, htold⟩ :=
    hdelivers .empty
  have hlength : rows.length = 6 := by
    have hlengths := congrArg List.length hnumbers
    rw [List.length_map, List.length_map, List.length_range, htotal] at hlengths
    exact hlengths
  rw [htotal] at hcount
  refine ⟨f, hacc, rows, hlength, reports, w', f', s', w'', hwrite, hflush, hbytes, hnow, hcount, ?_⟩
  intro w₁ p₁ g s₂ hi
  obtain ⟨-, -, hwritten⟩ := htold 1 w₁ p₁ g s₂ hi
  rw [hwritten, List.length_take, List.length_map, hlength]
  rfl

/-- three hosts -/
def threeHosts : List Entity := twoHosts ++ [⟨2, [⟨"hostname", "host_2"⟩], [.cpu], 0⟩]

theorem countable_threeHosts : Countable threeHosts := by
  unfold Countable
  decide

/-- three hosts with a row each nanosecond, and with the largest number of rows that a fleet can have:
whatever the size of a batch, the worker is cut off when it asks for one row more -/
theorem not_delivered_last_number :
    ∃ f, ofEntities threeHosts ⟨0, 6148914691236517205⟩ ⟨0, 1, by decide⟩ = .ok f ∧
      Countable threeHosts ∧ f.total.toNat = 18446744073709551615 ∧ f.made = 0 ∧
      ∀ (format : Format) (s : Stream) (size : Nat),
        (CommandLine.Job.points (max size 1) (Writer.new {} format) {} f s).output.2
            = some .workerLost ∧
          ∀ before, (Writer.new ⟨none, before⟩ format).writeRows? filler noteWritten size
            f.total.toNat (f, s) = none := by
  have hacc : ∃ f, ofEntities threeHosts ⟨0, 6148914691236517205⟩ ⟨0, 1, by decide⟩ = .ok f ∧
      f.total = 18446744073709551615 ∧ f.made = 0 := ⟨_, rfl, by decide, rfl⟩
  obtain ⟨f, hacc, htotal, hmade⟩ := hacc
  have hb := built_of_ofEntities hacc countable_threeHosts
  have hcalls : UInt64.size ≤ f.total.toNat + 1 := by
    rw [htotal]
    decide
  refine ⟨f, hacc, countable_threeHosts, congrArg UInt64.toNat htotal, hmade, ?_⟩
  intro format s size
  exact hb.writeAll_lost hcalls format s size

end

end Telemetry.Fleet
