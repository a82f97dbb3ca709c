import Telemetry.Fleet.Basic
import Telemetry.Proofs.Word

/-!
# What an accepted fleet is

The facts about a fleet that come from its acceptance alone, in natural numbers and integers.

* `Countable`            the rows of one epoch can be counted by a word;
* `Built`                a fleet that was just built from a list of entities, field by field;
* `ofEntities_eq_ok`     the checks that an accepted fleet has passed;
* `built_of_ofEntities`  what `ofEntities` accepts is built so.
-/

namespace Telemetry.Fleet

/-- the rows that the entities make in one epoch can be counted by a word -/
def Countable (entities : List Entity) : Prop :=
  ∀ e ∈ entities, entities.length * e.generators.length < UInt64.size

/-- a fleet that was just built from a list of entities, for a window and an interval -/
structure Built (entities : List Entity) (window : Window) (interval : Duration) (f : Fleet) :
    Prop where
  entities_eq : f.entities = entities.toArray
  entities_pos : 0 < entities.length
  keys_eq : ∀ e ∈ entities, e.tagKeys = f.tagKeys
  slots_eq : ∀ e ∈ entities, e.generators.length = f.slots.toNat
  slots_pos : 0 < f.slots.toNat
  window_eq : f.window = window
  start_lt_stop : window.start.toInt < window.stop.toInt
  span_lt : window.stop.toInt - window.start.toInt < 9223372036854775808
  interval_eq : f.interval = interval
  interval_pos : 0 < interval.toNanos
  nanos_eq : f.intervalNanos.toInt = interval.toNanos
  epochs_eq : f.epochs.toNat
    = epochCount (window.stop.toInt - window.start.toInt).toNat interval.toNanos
  rows_eq : f.rowsPerEpoch.toNat = entities.length * f.slots.toNat
  total_eq : f.total.toNat = f.rowsPerEpoch.toNat * f.epochs.toNat
  made_eq : f.made = 0
  values_eq : f.values = 0
  queries_eq : f.queries = 0
  written_eq : f.written = 0
  templates_eq : f.templates = []

/-! ## the checks in numbers -/

theorem intervalNanos?_eq_some {interval : Duration} {step : Int64}
    (h : intervalNanos? interval = some step) :
    step.toInt = interval.toNanos ∧ 0 < interval.toNanos := by
  unfold intervalNanos? at h
  split at h
  · exact absurd h.symm (Option.some_ne_none _)
  · rename_i hzero
    exact ⟨Word.signed?_eq_some.1 h,
      Nat.pos_of_ne_zero fun hnanos => hzero (Duration.isZero_iff.2 hnanos)⟩

theorem length?_eq_some {window : Window} {span : Int64} (h : window.length? = some span) :
    span.toInt = window.stop.toInt - window.start.toInt :=
  Word.signed?_eq_some.1 h

theorem of_fits {slots : Nat} {keys : List String} {e : Entity} (h : fits slots keys e = true) :
    e.generators.length = slots ∧ e.tagKeys = keys := by
  unfold fits at h
  rw [Bool.and_eq_true, beq_iff_eq, beq_iff_eq] at h
  exact h

/-- the rows of one epoch, where they can be counted -/
theorem toNat_rows {n slots : Nat} (hn : 0 < n) (hslots : 0 < slots)
    (h : n * slots < UInt64.size) : (n.toUInt64 * slots.toUInt64).toNat = n * slots := by
  have hle : n ≤ n * slots := Nat.le_mul_of_pos_right n hslots
  have hle' : slots ≤ n * slots := Nat.le_mul_of_pos_left slots hn
  rw [UInt64.toNat_mul, Word.toNat_toUInt64_of_lt (by omega), Word.toNat_toUInt64_of_lt (by omega)]
  exact Nat.mod_eq_of_lt h

/-! ## acceptance -/

section
variable {entities : List Entity} {window : Window} {interval : Duration} {f : Fleet}

/-- an accepted fleet: the checks that its parts have passed, and its fields -/
theorem ofEntities_eq_ok (h : ofEntities entities window interval = .ok f) :
    ∃ first rest step span, entities = first :: rest ∧ first.generators.length ≠ 0 ∧
      (∀ e ∈ entities, fits first.generators.length first.tagKeys e = true) ∧
      intervalNanos? interval = some step ∧ ¬ window.isEmpty = true ∧
      window.length? = some span ∧
      (entities.length.toUInt64 * first.generators.length.toUInt64).toNat
        * epochCount span.toInt.toNat step.toInt.toNat < UInt64.size ∧
      f = {
        entities := entities.toArray
        tagKeys := first.tagKeys
        slots := first.generators.length.toUInt64
        rowsPerEpoch := entities.length.toUInt64 * first.generators.length.toUInt64
        window := window
        interval := interval
        intervalNanos := step
        epochs := (epochCount span.toInt.toNat step.toInt.toNat).toUInt64
        total := entities.length.toUInt64 * first.generators.length.toUInt64
          * (epochCount span.toInt.toNat step.toInt.toNat).toUInt64 } := by
  cases entities with
  | nil => exact absurd h (by simp [ofEntities])
  | cons first rest =>
    rw [ofEntities] at h
    simp only at h
    -- the checks in order; where one of them refuses, there is no fleet
    split at h
    · exact absurd h (by simp)
    rename_i hslots
    split at h
    · exact absurd h (by simp)
    rename_i hall
    split at h
    · exact absurd h (by simp)
    rename_i step hstep
    split at h
    · exact absurd h (by simp)
    rename_i hempty
    split at h
    · exact absurd h (by simp)
    rename_i span hspan
    split at h
    · rename_i htotal
      rw [Bool.not_eq_true, Bool.not_eq_false', List.all_eq_true] at hall
      exact ⟨first, rest, step, span, rfl, hslots, hall, hstep, hempty, hspan, htotal,
        (Except.ok.inj h).symm⟩
    · exact absurd h (by simp)

/-- **What is accepted is built from the entities**, and its counts are the natural numbers that
they stand for. -/
theorem built_of_ofEntities (h : ofEntities entities window interval = .ok f)
    (hc : Countable entities) : Built entities window interval f := by
  obtain ⟨first, rest, step, span, hcons, hslots, hfits, hstep, hempty, hspan, htotal, rfl⟩ :=
    ofEntities_eq_ok h
  obtain ⟨hnanos, hpos⟩ := intervalNanos?_eq_some hstep
  have hlt := Window.not_isEmpty_iff.1 hempty
  have hlen := length?_eq_some hspan
  have hspanlt := span.toInt_lt
  have hcount := hc first (hcons ▸ List.mem_cons_self)
  have hlength : 0 < entities.length := by
    rw [hcons]
    exact Nat.succ_pos rest.length
  have hslotslt : first.generators.length < UInt64.size :=
    Nat.lt_of_le_of_lt (Nat.le_mul_of_pos_left _ hlength) hcount
  have hrows := toNat_rows hlength (Nat.pos_of_ne_zero hslots) hcount
  have hepochs : epochCount span.toInt.toNat step.toInt.toNat < UInt64.size := by
    refine Nat.lt_of_le_of_lt (Nat.le_mul_of_pos_left _ ?_) htotal
    rw [hrows]
    exact Nat.mul_pos hlength (Nat.pos_of_ne_zero hslots)
  refine
    { entities_eq := rfl
      entities_pos := hlength
      keys_eq := fun e he => (of_fits (hfits e he)).2
      slots_eq := fun e he => ?_
      slots_pos := ?_
      window_eq := rfl
      start_lt_stop := hlt
      span_lt := by omega
      interval_eq := rfl
      interval_pos := hpos
      nanos_eq := hnanos
      epochs_eq := ?_
      rows_eq := ?_
      total_eq := ?_
      made_eq := rfl
      values_eq := rfl
      queries_eq := rfl
      written_eq := rfl
      templates_eq := rfl }
  · rw [Word.toNat_toUInt64_of_lt hslotslt]
    exact (of_fits (hfits e he)).1
  · rw [Word.toNat_toUInt64_of_lt hslotslt]
    exact Nat.pos_of_ne_zero hslots
  · rw [Word.toNat_toUInt64_of_lt hepochs, hlen, hnanos]
    rfl
  · rw [Word.toNat_toUInt64_of_lt hslotslt]
    exact hrows
  · rw [UInt64.toNat_mul, Word.toNat_toUInt64_of_lt hepochs]
    exact Nat.mod_eq_of_lt htotal

theorem Built.getElem?_entities (hb : Built entities window interval f) (i : Nat) :
    f.entities[i]? = entities[i]? := by
  rw [hb.entities_eq, List.getElem?_toArray]

end

/-! ## times -/

/-- an epoch counts as long as it starts within the span -/
theorem lt_epochCount_iff {span step k : Nat} (hstep : 0 < step) :
    k < epochCount span step ↔ k * step < span := by
  unfold epochCount
  rw [Nat.lt_iff_add_one_le, Nat.le_div_iff_mul_le hstep, Nat.succ_mul]
  omega

section
variable {entities : List Entity} {window : Window} {interval : Duration} {f : Fleet}

theorem Built.epochs_pos (hb : Built entities window interval f) : 0 < f.epochs.toNat := by
  rw [hb.epochs_eq, lt_epochCount_iff hb.interval_pos, Nat.zero_mul]
  have hlt := hb.start_lt_stop
  omega

/-- every epoch of a fleet starts within its window -/
theorem Built.epoch_lt_stop (hb : Built entities window interval f) {k : Nat}
    (hk : k < f.epochs.toNat) :
    window.start.toInt + k * interval.toNanos < window.stop.toInt := by
  rw [hb.epochs_eq, lt_epochCount_iff hb.interval_pos] at hk
  have hlt := hb.start_lt_stop
  have hcast : ((k * interval.toNanos : Nat) : Int) = k * interval.toNanos := Int.natCast_mul _ _
  omega

/-- the time of an epoch does not overflow -/
theorem Built.toInt_epochTime (hb : Built entities window interval f) {epoch : UInt64}
    (hk : epoch < f.epochs) :
    (f.epochTime epoch).toInt = window.start.toInt + epoch.toNat * interval.toNanos := by
  have hk' := UInt64.lt_iff_toNat_lt.1 hk
  have hstop := hb.epoch_lt_stop hk'
  have hle := window.start.le_toInt
  have hlt := window.stop.toInt_lt
  have hspan := hb.span_lt
  have hpos := hb.interval_pos
  have hmul : epoch.toNat ≤ epoch.toNat * interval.toNanos := Nat.le_mul_of_pos_right _ hpos
  have hcast : ((epoch.toNat * interval.toNanos : Nat) : Int) = epoch.toNat * interval.toNanos :=
    Int.natCast_mul _ _
  unfold epochTime
  rw [Int64.toInt_add, Int64.toInt_mul, Word.toInt_toInt64_of_lt (by omega), hb.nanos_eq,
    hb.window_eq, Int.add_bmod_bmod, Int.bmod_eq_of_le (by omega) (by omega)]

end

/-! ## a small fleet -/

/-- two hosts that report their processor, with nothing made so far -/
def twoHosts : List Entity :=
  [⟨0, [⟨"hostname", "host_0"⟩], [.cpu], 0⟩, ⟨1, [⟨"hostname", "host_1"⟩], [.cpu], 0⟩]

theorem countable_twoHosts : Countable twoHosts := by
  intro e he
  rcases List.mem_cons.1 he with rfl | he
  · decide
  · rw [List.mem_singleton] at he
    subst he
    decide

theorem fresh_twoHosts : ∀ e ∈ twoHosts, e.tickedEpoch = 0 := by
  intro e he
  rcases List.mem_cons.1 he with rfl | he
  · rfl
  · rw [List.mem_singleton] at he
    rw [he]

theorem accepted_twoHosts :
    ∃ f, ofEntities twoHosts ⟨0, 3000000000⟩ (.ofSeconds 1) = .ok f ∧ f.total = 6 :=
  ⟨_, rfl, by decide⟩

end Telemetry.Fleet
