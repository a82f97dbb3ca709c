import Mathlib.Data.List.Nodup
import Telemetry.Proofs.Fleet.Sweep

/-!
# Draining a fleet

A fresh fleet that is drained makes the rows of the three loops: every place once, and the rows of
one entity and slot one interval apart.

* `IsRow`            what the row of a number is, whatever its values are;
* `Come.drain_rows`, `Built.rows_drain`  the rows of a drain, one by one;
* `map_place_range`, `nodup_places`  the places of all rows, each once;
* `drain_eq_sweep`   the rows of a drain are the rows of the loops.
-/

namespace Telemetry.Fleet

open Telemetry.Random

/-- a numbered row is row number `j` of some entities with `M` slots each -/
structure IsRow (entities : List Entity) (window : Window) (interval : Duration) (M j : Nat)
    (r : UInt64 × Point) : Prop where
  number_eq : r.1.toNat = j + 1
  adds : ∃ e gen, entities[j / M % entities.length]? = some e ∧ e.generators[j % M]? = some gen ∧
    Adds e gen r.2.timestamp {} r.2
  time_eq : r.2.timestamp.toInt
    = window.start.toInt + (j / (entities.length * M) : Nat) * interval.toNanos

section
variable {entities : List Entity} {window : Window} {interval : Duration} {f g : Fleet} {j : Nat}

theorem length_drain (f : Fleet) (n : Nat) (s : Stream) : ((f.drain n).run s).1.1.length = n := by
  induction n generalizing f s with
  | zero => rfl
  | succ n ih =>
    rw [drain_succ]
    simp only
    rw [List.length_cons, ih]

/-- the rows of a drain that does not pass the total, one by one -/
theorem Come.drain_rows (hb : Built entities window interval f) (hcome : Come entities f j g)
    {n : Nat} (hn : j + n ≤ f.total.toNat) (s : Stream) {i : Nat} (hi : i < n) :
    ∃ r, ((g.drain n).run s).1.1[i]? = some r ∧
      IsRow entities window interval f.slots.toNat (j + i) r := by
  induction n generalizing g j s i with
  | zero => omega
  | succ n ih =>
    obtain ⟨e, gen, he, hgen⟩ := hb.exists_row j
    obtain ⟨number, row, h, s', hrun, hnumber, hadds, htime, hcome'⟩ :=
      hcome.next_below hb (by omega) he hgen {} s
    rw [drain_succ, hrun]
    cases i with
    | zero => exact ⟨(number, row), rfl, hnumber, ⟨e, gen, he, hgen, hadds⟩, htime⟩
    | succ i =>
      obtain ⟨r, hr, hrow⟩ := ih hcome' (by omega) s' (Nat.lt_of_succ_lt_succ hi)
      rw [Nat.add_right_comm] at hrow
      exact ⟨r, hr, hrow⟩

theorem map_eq_map_range {α β : Type} {xs : List α} {g : α → β} {y : Nat → β}
    (h : ∀ i < xs.length, ∃ x, xs[i]? = some x ∧ g x = y i) :
    xs.map g = (List.range xs.length).map y := by
  apply List.ext_getElem?
  intro i
  rw [List.getElem?_map, List.getElem?_map]
  by_cases hi : i < xs.length
  · obtain ⟨x, hx, hg⟩ := h i hi
    rw [hx, List.getElem?_range hi, Option.map_some, Option.map_some, hg]
  · rw [List.getElem?_eq_none (by omega), List.getElem?_eq_none (by rw [List.length_range]; omega)]
    rfl

/-- rows that are the rows of their numbers have the numbers from one on -/
theorem numbers_of_rows {rows : List (UInt64 × Point)} {M : Nat}
    (h : ∀ i < rows.length, ∃ r, rows[i]? = some r ∧ IsRow entities window interval M i r) :
    rows.map (·.1.toNat) = (List.range rows.length).map (· + 1) := by
  refine map_eq_map_range fun i hi => ?_
  obtain ⟨r, hr, hrow⟩ := h i hi
  exact ⟨r, hr, hrow.number_eq⟩

/-- the rows of a fresh fleet, one by one -/
theorem Built.rows_drain (hb : Built entities window interval f) (s : Stream) {i : Nat}
    (hi : i < f.total.toNat) :
    ∃ r, ((f.drain f.total.toNat).run s).1.1[i]? = some r ∧
      IsRow entities window interval f.slots.toNat i r := by
  obtain ⟨r, hr, hrow⟩ := hb.come.drain_rows hb (Nat.le_of_eq (Nat.zero_add _)) s hi
  rw [Nat.zero_add] at hrow
  exact ⟨r, hr, hrow⟩

theorem Built.numbers_drain (hb : Built entities window interval f) (s : Stream) :
    ((f.drain f.total.toNat).run s).1.1.map (·.1.toNat)
      = (List.range f.total.toNat).map (· + 1) := by
  have hrows : ∀ i < ((f.drain f.total.toNat).run s).1.1.length, ∃ r,
      ((f.drain f.total.toNat).run s).1.1[i]? = some r ∧
        IsRow entities window interval f.slots.toNat i r := by
    intro i hi
    rw [length_drain] at hi
    exact hb.rows_drain s hi
  rw [numbers_of_rows hrows, length_drain]

/-- rows with the numbers from one on have the places of all rows in order -/
theorem places_of_numbers {rows : List (UInt64 × Point)} {n : Nat}
    (h : rows.map (·.1.toNat) = (List.range n).map (· + 1)) :
    (rows.map f.spotted).map (·.1) = (List.range n).map fun i => f.place i.toUInt64 := by
  have hspot : ∀ r : UInt64 × Point, (f.spotted r).1 = f.place (r.1.toNat.toUInt64 - 1) := by
    intro r
    show f.place (r.1 - 1) = f.place (UInt64.ofNat r.1.toNat - 1)
    rw [UInt64.ofNat_toNat]
  have hplace : ∀ i : Nat, f.place ((i + 1).toUInt64 - 1) = f.place i.toUInt64 := by
    intro i
    show f.place (UInt64.ofNat (i + 1) - 1) = _
    rw [UInt64.ofNat_add]
    exact congrArg f.place (UInt64.add_sub_cancel _ _)
  calc (rows.map f.spotted).map (·.1)
      = (rows.map (·.1.toNat)).map fun n => f.place (n.toUInt64 - 1) := by
        rw [List.map_map, List.map_map]
        exact List.map_congr_left fun r _ => hspot r
    _ = (List.range n).map fun i => f.place i.toUInt64 := by
        rw [h, List.map_map]
        exact List.map_congr_left fun i _ => hplace i

theorem Built.nodup_places (hb : Built entities window interval f) :
    ((List.range f.total.toNat).map fun i => f.place i.toUInt64).Nodup := by
  refine List.Nodup.map_on ?_ List.nodup_range
  intro i hi i' hi' heq
  have htotal := f.total.toNat_lt_size
  rw [List.mem_range] at hi hi'
  have h := hb.rowIndex_place i.toUInt64
  rw [heq, hb.rowIndex_place, Word.toNat_toUInt64_of_lt (by omega),
    Word.toNat_toUInt64_of_lt (by omega)] at h
  exact h.symm

/-- every place of the fleet is the place of one row -/
theorem Built.count_places (hb : Built entities window interval f) {k i m : Nat}
    (hk : k < f.epochs.toNat) (hi : i < entities.length) (hm : m < f.slots.toNat) :
    ((List.range f.total.toNat).map fun i => f.place i.toUInt64).count ⟨i, m, k.toUInt64⟩ = 1 := by
  refine List.count_eq_one_of_mem hb.nodup_places (List.mem_map.2 ?_)
  exact ⟨_, List.mem_range.2 (hb.rowIndex_lt_total hk hi hm), hb.place_rowIndex hk hi hm⟩

/-- two rows one epoch apart -/
theorem rows_apart {M i : Nat} {r r' : UInt64 × Point} (hE : 0 < entities.length) (hM : 0 < M)
    (h : IsRow entities window interval M i r)
    (h' : IsRow entities window interval M (i + entities.length * M) r') :
    r'.2.measurement = r.2.measurement ∧ r'.2.tags = r.2.tags ∧
      r'.2.timestamp.toInt = r.2.timestamp.toInt + interval.toNanos := by
  have hslot : (i + entities.length * M) % M = i % M := Nat.add_mul_mod_self_right _ _ _
  have hentity : (i + entities.length * M) / M % entities.length = i / M % entities.length := by
    rw [Nat.add_mul_div_right _ _ hM, Nat.add_mod_right]
  have hepoch : (i + entities.length * M) / (entities.length * M)
      = i / (entities.length * M) + 1 := Nat.add_div_right _ (Nat.mul_pos hE hM)
  obtain ⟨e, gen, he, hgen, hadds⟩ := h.adds
  obtain ⟨e', gen', he', hgen', hadds'⟩ := h'.adds
  rw [hentity, he] at he'
  obtain rfl := Option.some.inj he'
  rw [hslot, hgen] at hgen'
  obtain rfl := Option.some.inj hgen'
  refine ⟨?_, ?_, ?_⟩
  · rw [hadds.measurement_eq, hadds'.measurement_eq]
  · rw [hadds.tags_eq, hadds'.tags_eq]
  · rw [h.time_eq, h'.time_eq, hepoch, Nat.cast_succ, Int.add_mul, Int.one_mul, Int.add_assoc]

theorem Built.entity_spotted (hb : Built entities window interval f) {i : Nat}
    {r : UInt64 × Point} (h : IsRow entities window interval f.slots.toNat i r) :
    (f.spotted r).1.entity = i / f.slots.toNat % entities.length ∧
      (f.spotted r).1.slot = i % f.slots.toNat := by
  have hnumber : (r.1 - 1).toNat = i := by
    rw [Word.toNat_pred (by rw [h.number_eq]; exact Nat.succ_pos i), h.number_eq]
    rfl
  show (f.place (r.1 - 1)).entity = _ ∧ (f.place (r.1 - 1)).slot = _
  rw [hb.place_eq, hnumber]
  exact ⟨rfl, rfl⟩

theorem map_mark_zero (hfresh : ∀ e ∈ entities, e.tickedEpoch = 0) :
    entities.map (mark 0) = entities := by
  have hmark : ∀ e ∈ entities, mark 0 e = e := by
    intro e he
    cases e
    rw [mark, Entity.mk.injEq]
    exact ⟨rfl, rfl, rfl, (hfresh _ he).symm⟩
  rw [List.map_congr_left hmark, List.map_id']

/-- **Draining a fresh fleet** makes the rows of the three loops, in their order, with their values
and with the same draws left.  So the numbers go up from one, every place has one row, and the rows
of an entity and slot in consecutive epochs are one interval apart. -/
theorem drain_eq_sweep (hacc : ofEntities entities window interval = .ok f)
    (hc : Countable entities) (hfresh : ∀ e ∈ entities, e.tickedEpoch = 0) (s : Stream) :
    (∀ e ∈ entities, e.generators.length = f.slots.toNat) ∧
    f.total.toNat = f.epochs.toNat * (entities.length * f.slots.toNat) ∧
    (∀ k < f.epochs.toNat,
      (timeOf window.start interval k).toInt = window.start.toInt + k * interval.toNanos) ∧
    ∃ rows f' es s', (f.drain f.total.toNat).run s = ((rows, f'), s') ∧
      (sweepEpochs window.start interval 0 f.epochs.toNat entities).run s
        = ((rows.map f.spotted, es), s') ∧
      f'.entities.toList.map (·.generators) = es.map (·.generators) ∧
      rows.map (·.1.toNat) = (List.range f.total.toNat).map (· + 1) ∧
      (∀ k < f.epochs.toNat, ∀ i < entities.length, ∀ m < f.slots.toNat,
        ((rows.map f.spotted).map (·.1)).count ⟨i, m, k.toUInt64⟩ = 1) ∧
      ∀ i, i + entities.length * f.slots.toNat < f.total.toNat → ∃ r r',
        rows[i]? = some r ∧ rows[i + entities.length * f.slots.toNat]? = some r' ∧
        (f.spotted r').1.entity = (f.spotted r).1.entity ∧
        (f.spotted r').1.slot = (f.spotted r).1.slot ∧
        r'.2.measurement = r.2.measurement ∧ r'.2.tags = r.2.tags ∧
        r'.2.timestamp.toInt = r.2.timestamp.toInt + interval.toNanos := by
  have hb := built_of_ofEntities hacc hc
  obtain ⟨values, hd⟩ :=
    @Built.drains_epochs _ _ _ _ hb 0 f.epochs.toNat (by omega) entities rfl 0 s
  have htotal : f.total.toNat = f.epochs.toNat * (entities.length * f.slots.toNat) := by
    rw [hb.total_eq, hb.rows_eq, Nat.mul_comm]
  have hstart : rowIndex entities.length f.slots.toNat 0 0 0 = 0 := by
    unfold rowIndex
    ring
  rw [← htotal, map_mark_zero hfresh, hstart, hb.stage_eq] at hd
  generalize (sweepEpochs window.start interval 0 f.epochs.toNat entities).run s = out at hd ⊢
  obtain ⟨⟨swept, es⟩, s'⟩ := out
  obtain ⟨rows, hrun, hrows⟩ := hd.drain_run
  have hisRow : ∀ i < f.total.toNat, ∃ r, rows[i]? = some r ∧
      IsRow entities window interval f.slots.toNat i r := by
    intro i hi
    have hrow := hb.rows_drain s hi
    rwa [hrun] at hrow
  have hnumbers := hb.numbers_drain s
  rw [hrun] at hnumbers
  refine ⟨hb.slots_eq, htotal, fun k hk => hb.toInt_timeOf hk, rows, _, es, s', hrun, ?_, ?_,
    hnumbers, ?_, ?_⟩
  · rw [hrows]
  · show List.map (·.generators) (List.map (mark _) _) = _
    rw [List.map_map]
    rfl
  · intro k hk i hi m hm
    rw [places_of_numbers hnumbers]
    exact hb.count_places hk hi hm
  · intro i hi
    obtain ⟨r, hr, hrow⟩ := hisRow i (by omega)
    obtain ⟨r', hr', hrow'⟩ := hisRow _ hi
    have hapart := rows_apart hb.entities_pos hb.slots_pos hrow hrow'
    obtain ⟨hentity, hslot⟩ := hb.entity_spotted hrow
    obtain ⟨hentity', hslot'⟩ := hb.entity_spotted hrow'
    refine ⟨r, r', hr, hr', ?_, ?_, hapart⟩
    · rw [hentity, hentity', Nat.add_mul_div_right _ _ hb.slots_pos, Nat.add_mod_right]
    · rw [hslot, hslot', Nat.add_mul_mod_self_right]

/-- two hosts and three epochs: six rows -/
theorem drain_eq_sweep_two_hosts :
    ∃ f, ofEntities twoHosts ⟨0, 3000000000⟩ (.ofSeconds 1) = .ok f ∧
      ∃ rows f' es s', (f.drain f.total.toNat).run ⟨1⟩ = ((rows, f'), s') ∧
        (sweepEpochs 0 (.ofSeconds 1) 0 f.epochs.toNat twoHosts).run ⟨1⟩
          = ((rows.map f.spotted, es), s') := by
  obtain ⟨f, hacc, -⟩ := accepted_twoHosts
  obtain ⟨-, -, -, rows, f', es, s', hrun, hsweep, -⟩ :=
    drain_eq_sweep hacc countable_twoHosts fresh_twoHosts ⟨1⟩
  exact ⟨f, hacc, rows, f', es, s', hrun, hsweep⟩

end

end Telemetry.Fleet
