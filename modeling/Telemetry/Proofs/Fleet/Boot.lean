import Telemetry.Proofs.Fleet.Drain
import Telemetry.Proofs.Generator.Boot

/-!
# Boot times in a fleet

Neither ticks nor rows move a boot time, so all rows of a kernel report the one that it was built
with.

* `Entity.bootTimes`         the boot times of an entity, slot by slot;
* `Come.drain`, `map_drain`  a fleet after some rows;
* `getElem?_drain`           each row of a drain is the next row of the fleet after those before it;
* `boots_before_rows_iff`    the boot times in the rows of a fleet, against the times of the rows;
* `lateBoot`                 a host that reports a row from before it was booted.
-/

namespace Telemetry

open Telemetry.Random

/-! ## entities -/

namespace Entity

/-- the boot times of an entity, slot by slot -/
def bootTimes (e : Entity) : List (Option Int64) := e.generators.map Generator.bootTime?

theorem bootTimes_tickTimes (interval : Duration) (n : Nat) (gs : List Generator) :
    (tickTimes interval n gs).map Generator.bootTime? = gs.map Generator.bootTime? := by
  induction n generalizing gs with
  | zero => rw [tickTimes_zero]
  | succ n ih =>
    rw [tickTimes_succ, ih, List.map_map]
    exact List.map_congr_left fun g _ => g.bootTime?_tick interval

theorem bootTimes_advanceTo (e : Entity) (epoch : UInt64) (interval : Duration) :
    (e.advanceTo epoch interval).bootTimes = e.bootTimes := by
  unfold advanceTo
  split
  · exact bootTimes_tickTimes interval _ _
  · rfl

theorem bootTimes_after {e : Entity} {slot : Nat} {g : Generator}
    (h : e.generators[slot]? = some g) (s : Stream) :
    (e.after slot g s).bootTimes = e.bootTimes := by
  obtain ⟨hlt, rfl⟩ := List.getElem?_eq_some_iff.1 h
  show (e.generators.set slot _).map Generator.bootTime? = _
  rw [List.map_set, Generator.bootTime?_advance, ← List.getElem_map Generator.bootTime?,
    List.set_getElem_self]
  · rfl
  · rwa [List.length_map]

theorem Reported.bootTimes_eq {interval : Duration} {s : Stream} {e e' : Entity}
    (h : Reported interval s e e') : e'.bootTimes = e.bootTimes := by
  obtain ⟨epoch, slot, g, hg, rfl⟩ := h
  rw [bootTimes_after hg, bootTimes_advanceTo]

theorem bootTime?_of_bootTimes {e e' : Entity} (h : e'.bootTimes = e.bootTimes) {slot : Nat}
    {g g' : Generator} (hg : e.generators[slot]? = some g) (hg' : e'.generators[slot]? = some g') :
    g'.bootTime? = g.bootTime? := by
  have hslot := congrArg (·[slot]?) h
  simp only [bootTimes, List.getElem?_map, hg, hg', Option.map_some] at hslot
  exact Option.some.inj hslot

end Entity

/-! ## drains -/

namespace Fleet

/-- each row of a drain is the next row of the fleet after the rows before it -/
theorem getElem?_drain (f : Fleet) {n i : Nat} (hi : i < n) (s : Stream) :
    ((f.drain n).run s).1.1[i]?
      = some (((((f.drain i).run s).1.2.next {}).run ((f.drain i).run s).2).1.1,
          ((((f.drain i).run s).1.2.next {}).run ((f.drain i).run s).2).1.2.1) := by
  induction n generalizing f i s with
  | zero => exact absurd hi (Nat.not_lt_zero i)
  | succ n ih =>
    cases i with
    | zero => rfl
    | succ i => exact ih _ (Nat.lt_of_succ_lt_succ hi) _

/-- what rows leave alone in every entity, a drain leaves alone in a fleet -/
theorem map_drain {α : Type} {view : Entity → α}
    (hview : ∀ {interval s e e'}, Entity.Reported interval s e e' → view e' = view e)
    (f : Fleet) (n : Nat) (s : Stream) :
    ((f.drain n).run s).1.2.entities.map view = f.entities.map view := by
  induction n generalizing f s with
  | zero => rfl
  | succ n ih => exact (ih _ _).trans (map_next hview f {} s)

section
variable {entities : List Entity} {window : Window} {interval : Duration} {f g : Fleet} {j : Nat}

theorem Come.drain (hb : Built entities window interval f) (hcome : Come entities f j g) {n : Nat}
    (hn : j + n < UInt64.size) (s : Stream) : Come entities f (j + n) ((g.drain n).run s).1.2 := by
  induction n generalizing g j s with
  | zero => exact hcome
  | succ n ih =>
    have hnext : Come entities f (j + 1) ((g.next {}).run s).1.2.2 :=
      hcome.perform hb (.next {}) (show j + 1 < _ by omega) s
    have hrest := ih hnext (by omega) ((g.next {}).run s).2
    rwa [Nat.add_assoc, Nat.add_comm 1 n] at hrest

/-- a row of a kernel that was booted so many seconds after 1970 -/
structure ReportsBoot (boot : Int) (row : Point) : Prop where
  measurement_eq : row.measurement = "kernel"
  boot_eq : ∃ b, row.field? "boot_time" = some (.integer b) ∧ b.toInt = boot

theorem reportsBoot_rowOf {e : Entity} {gen : Generator} {boot : Int64}
    (h : gen.bootTime? = some boot) (time : Int64) (s : Stream) :
    ReportsBoot boot.toInt (rowOf e gen time {} s) := by
  obtain ⟨rest, hfields⟩ := Generator.fields_of_bootTime? h s
  refine ⟨congrArg Kind.name (Generator.kind_of_bootTime? h), boot, ?_, rfl⟩
  show (Option.map Field.value (List.find? _ (gen.fields (gen.advance.run s).1.1))) = _
  rw [hfields]
  rfl

/-- a row of a kernel in a drain: its boot time and the time of its epoch -/
theorem Built.row_of_kernel (hb : Built entities window interval f) {k i m : Nat}
    (hk : k < f.epochs.toNat) {e₀ : Entity} {gen₀ : Generator} {boot : Int64}
    (he₀ : entities[i]? = some e₀) (hgen₀ : e₀.generators[m]? = some gen₀)
    (hboot : gen₀.bootTime? = some boot) (s : Stream) :
    ∃ number row, ((f.drain f.total.toNat).run s).1.1[rowIndex entities.length f.slots.toNat k i m]?
        = some (number, row) ∧
      row.timestamp.toInt = window.start.toInt + k * interval.toNanos ∧
      ReportsBoot boot.toInt row := by
  obtain ⟨hi, hm⟩ := hb.slot_lt he₀ hgen₀
  have hlt := hb.rowIndex_lt_total hk hi hm
  have htotal := f.total.toNat_lt_size
  have hcome := hb.come.drain hb (n := rowIndex entities.length f.slots.toNat k i m) (by omega) s
  have hviews := map_drain Entity.Reported.bootTimes_eq f
    (rowIndex entities.length f.slots.toNat k i m) s
  have hrow := getElem?_drain f hlt s
  generalize (f.drain (rowIndex entities.length f.slots.toNat k i m)).run s = state
    at hcome hviews hrow
  obtain ⟨⟨rows, g⟩, s'⟩ := state
  rw [Nat.zero_add] at hcome
  obtain ⟨e, gen, epoch, n, he, hgen, hepoch, hlast, hrun⟩ := hcome.next_row hb hlt {} s'
  rw [rowIndex_div_mod hi hm] at he
  rw [rowIndex_mod hm] at hgen
  rw [rowIndex_div_rows hi hm] at hepoch
  -- the generator has changed since it was built, but not its boot time
  have hbootTimes : (e.advanceTo epoch f.interval).bootTimes = e₀.bootTimes := by
    have hentity := congrArg (·[i]?) hviews
    simp only [Array.getElem?_map, he, hb.getElem?_entities, he₀, Option.map_some] at hentity
    rw [Entity.bootTimes_advanceTo]
    exact Option.some.inj hentity
  have hsame := (Entity.bootTime?_of_bootTimes hbootTimes hgen₀ hgen).trans hboot
  refine ⟨_, _, hrow, ?_, ?_⟩
  · rw [hrun]
    show (f.epochTime epoch).toInt = _
    rw [hb.toInt_epochTime hlast, hepoch]
  · rw [hrun]
    exact reportsBoot_rowOf hsame _ s'

/-- **Boot times.**  A kernel of an accepted fleet was built with the start of the window.  In a
drain all its rows report one boot time, which is within thirty days before the start or less than a
second after it.  No row is from before that time, except where the start is before 1970 and no
whole second and the kernel has been up for no time. -/
theorem boots_before_rows_iff (hacc : ofEntities entities window interval = .ok f)
    (hc : Countable entities) {i m : Nat} {e₀ : Entity} {o : Overrides} {a : Attributes}
    (he₀ : entities[i]? = some e₀)
    (hkernel : e₀.generators[m]? = some ((Generator.new .kernel window.start o).run a).1)
    (s : Stream) :
    ∃ rows f' s' boot, (f.drain f.total.toNat).run s = ((rows, f'), s') ∧
      (∀ k < f.epochs.toNat, ∃ number row,
        rows[rowIndex entities.length f.slots.toNat k i m]? = some (number, row) ∧
        row.timestamp.toInt = window.start.toInt + k * interval.toNanos ∧ ReportsBoot boot row) ∧
      window.start.toInt - 2592000 * 1000000000 < boot * 1000000000 ∧
      boot * 1000000000 < window.start.toInt + 1000000000 ∧
      ((∀ k < f.epochs.toNat,
          boot * 1000000000 ≤ window.start.toInt + k * interval.toNanos) ↔
        0 ≤ window.start.toInt ∨ (1000000000 : Int) ∣ window.start.toInt ∨
          0 < Generator.Kernel.uptime a) := by
  have hb := built_of_ofEntities hacc hc
  have hnew := Generator.toInt_bootTime?_new window.start o a
  obtain ⟨boot, hboot, hsecond⟩ := Option.map_eq_some_iff.1 hnew
  refine ⟨_, _, _, boot.toInt, rfl, fun k hk => hb.row_of_kernel hk he₀ hkernel hboot s, ?_, ?_, ?_⟩
  · rw [hsecond]
    exact Generator.lt_bootSecond _ (Generator.Kernel.uptime_lt a)
  · rw [hsecond]
    exact Generator.bootSecond_lt _ _
  · rw [← Generator.bootSecond_le_iff, hsecond]
    constructor
    · intro hall
      -- the first row stands at the start
      have hfirst := hall 0 hb.epochs_pos
      rwa [Nat.cast_zero, Int.zero_mul, Int.add_zero] at hfirst
    · intro hle k _
      have hcast : ((k * interval.toNanos : Nat) : Int) = k * interval.toNanos :=
        Int.natCast_mul _ _
      omega

end

/-- a host with a processor and a kernel whose window starts half a second into 1969 -/
def halfSecondHost : Entity :=
  ⟨0, [⟨"hostname", "host_0"⟩],
    [.cpu, ((Generator.new .kernel (-31535999500000000) {}).run ⟨0⟩).1], 0⟩

/-- the start is no whole second, but the kernel has been up for some time -/
theorem boots_before_rows_iff_half_second :
    ∃ f, ofEntities [halfSecondHost] ⟨-31535999500000000, -31535996000000000⟩ (.ofSeconds 1)
        = .ok f ∧
      ∃ rows f' s' boot, (f.drain f.total.toNat).run ⟨1⟩ = ((rows, f'), s') ∧
        ∃ number row, rows[3]? = some (number, row) ∧
          row.timestamp.toInt = -31535998500000000 ∧ ReportsBoot boot row ∧
          boot * 1000000000 ≤ -31535998500000000 := by
  have hacc : ∃ f, ofEntities [halfSecondHost] ⟨-31535999500000000, -31535996000000000⟩
      (.ofSeconds 1) = .ok f ∧ f.slots = 2 ∧ 1 < f.epochs.toNat := ⟨_, rfl, rfl, by decide⟩
  obtain ⟨f, hacc, hslots, hepochs⟩ := hacc
  have hc : Countable [halfSecondHost] := by
    intro e he
    obtain rfl := List.mem_singleton.1 he
    decide
  obtain ⟨rows, f', s', boot, hrun, hrows, -, -, hiff⟩ :=
    boots_before_rows_iff (i := 0) (m := 1) hacc hc rfl rfl ⟨1⟩
  obtain ⟨number, row, hrow, htime, hreports⟩ := hrows 1 hepochs
  have hle := hiff.2 (.inr (.inr (by decide))) 1 hepochs
  have hindex : rowIndex [halfSecondHost].length f.slots.toNat 1 0 1 = 3 := by
    rw [hslots]
    rfl
  have hinstant : (-31535999500000000 : Int64).toInt + (1 : Nat) * (Duration.ofSeconds 1).toNanos
      = -31535998500000000 := by decide
  rw [hindex] at hrow
  rw [hinstant] at htime hle
  exact ⟨f, hacc, rows, f', s', boot, hrun, number, row, hrow, htime, hreports, hle⟩

/-- one host with a kernel, from a nanosecond before 1970 on -/
def lateBoot : Hosts := { window := ⟨-1, 999999999⟩, count := 1, kinds := [.kernel] }

/-- the only row is from a nanosecond before the boot that it reports -/
theorem not_booted_lateBoot :
    ∃ f, ((hosts lateBoot).run.run ⟨19710⟩).1 = some (.ok f) ∧
      ∃ number row f' s', (f.drain f.total.toNat).run ⟨1⟩ = (([(number, row)], f'), s') ∧
        row.timestamp.toInt = -1 ∧ ReportsBoot 0 row ∧ ¬ (0 : Int) * 1000000000 ≤ -1 := by
  have hmade : ∃ f, ((hosts lateBoot).run.run ⟨19710⟩).1 = some (.ok f) ∧ f.total = 1 ∧
      f.slots = 1 ∧ 0 < f.epochs.toNat ∧
      ofEntities [((Host.ofNumber 0 (-1) [.kernel] {}).run ⟨19710⟩).1] lateBoot.window
        lateBoot.interval = .ok f := ⟨_, rfl, by decide, by decide, by decide, rfl⟩
  obtain ⟨f, hrun, htotal, hslots, hepochs, hacc⟩ := hmade
  have hc : Countable [((Host.ofNumber 0 (-1) [.kernel] {}).run ⟨19710⟩).1] := by
    intro e he
    obtain rfl := List.mem_singleton.1 he
    decide
  have hb := built_of_ofEntities hacc hc
  have hbooted : ∃ gen, ((Host.ofNumber 0 (-1) [.kernel] {}).run ⟨19710⟩).1.generators[0]?
      = some gen ∧ gen.bootTime? = some 0 := ⟨_, rfl, by decide⟩
  obtain ⟨gen, hgen, hboot⟩ := hbooted
  obtain ⟨number, row, hrow, htime, hreports⟩ :=
    hb.row_of_kernel (i := 0) (k := 0) hepochs rfl hgen hboot ⟨1⟩
  have hone : f.total.toNat = 1 := congrArg UInt64.toNat htotal
  have hdrain : ∃ answer f' s', (f.drain 1).run ⟨1⟩ = (([answer], f'), s') := ⟨_, _, _, rfl⟩
  obtain ⟨answer, f', s', hdrain⟩ := hdrain
  rw [hone, hslots, hdrain] at hrow
  obtain rfl : answer = (number, row) := Option.some.inj hrow
  rw [← hone] at hdrain
  exact ⟨f, hrun, number, row, f', s', hdrain, htime.trans (by decide), hreports, by decide⟩

end Fleet

end Telemetry
