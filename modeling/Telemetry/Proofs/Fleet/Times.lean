import Mathlib.Data.List.Count
import Telemetry.Proofs.Fleet.Drain

/-!
# The times of the rows

The rows of a fleet stand at the sampling instants of its window: its start, and every whole number
of intervals after it that is still before its stop.

* `ExactTime f k`        the time of epoch `k` is computed without overflow;
* `Sampled`, `instant`   the sampling instants of a window, and the instant of an epoch;
* `Built.sampled_iff`    these are the same, so no instant is missing and no epoch starts too late;
* `count_div_range`      how often a quotient comes up among the first numbers;
* `drain_times`          the times of a full drain, in order and counted.

A fleet draws nothing for its times, so they are a function of the row numbers (`times_drain`), and
both the order and the count are read off that function.
-/

namespace Telemetry.Fleet

open Telemetry.Random

/-! ## times without overflow -/

/-- the time of an epoch comes out right in signed words: its number, the product with the interval
and the sum with the start stand for the integers -/
structure ExactTime (f : Fleet) (k : UInt64) : Prop where
  epoch_eq : k.toInt64.toInt = k.toNat
  product_eq : (k.toInt64 * f.intervalNanos).toInt = k.toInt64.toInt * f.intervalNanos.toInt
  sum_eq : (f.epochTime k).toInt = f.window.start.toInt + (k.toInt64 * f.intervalNanos).toInt

section
variable {entities : List Entity} {window : Window} {interval : Duration} {f : Fleet}

theorem Built.exactTime (hb : Built entities window interval f) {k : UInt64} (hk : k < f.epochs) :
    ExactTime f k := by
  have hk' : k.toNat < f.epochs.toNat := UInt64.lt_iff_toNat_lt.1 hk
  have hstop := hb.epoch_lt_stop hk'
  have hspan := hb.span_lt
  have hle : k.toNat ≤ k.toNat * interval.toNanos := Nat.le_mul_of_pos_right _ hb.interval_pos
  have hcast : ((k.toNat * interval.toNanos : Nat) : Int) = k.toNat * interval.toNanos :=
    Int.natCast_mul _ _
  have hepoch : k.toInt64.toInt = k.toNat := Word.toInt_toInt64_of_lt (by omega)
  -- the product lies between zero and the length of the window, which is a signed word
  have hproduct : (k.toInt64 * f.intervalNanos).toInt = k.toInt64.toInt * f.intervalNanos.toInt := by
    rw [Int64.toInt_mul, hepoch, hb.nanos_eq, Int.bmod_eq_of_le (by omega) (by omega)]
  refine ⟨hepoch, hproduct, ?_⟩
  rw [hb.toInt_epochTime hk, hproduct, hepoch, hb.nanos_eq, hb.window_eq]

end

/-! ## counting quotients -/

section
variable {p K k : Nat}

theorem map_div_block (hp : 0 < p) (K : Nat) :
    ((List.range p).map (K * p + ·)).map (· / p) = List.replicate p K := by
  rw [List.map_map, List.eq_replicate_iff]
  refine ⟨by rw [List.length_map, List.length_range], fun b hb => ?_⟩
  obtain ⟨i, hi, rfl⟩ := List.mem_map.1 hb
  show (K * p + i) / p = K
  rw [Nat.add_comm, Nat.add_mul_div_right _ _ hp, Nat.div_eq_of_lt (List.mem_range.1 hi),
    Nat.zero_add]

/-- of the numbers below `K * p`, just `p` have a quotient by `p` that is below `K` -/
theorem count_div_range (hp : 0 < p) :
    ((List.range (K * p)).map (· / p)).count k = if k < K then p else 0 := by
  induction K with
  | zero => simp
  | succ K ih =>
    rw [Nat.succ_mul, List.range_add, List.map_append, List.count_append, ih, map_div_block hp,
      List.count_replicate]
    by_cases h : K = k
    · subst h
      simp
    · have hiff : k < K + 1 ↔ k < K := by omega
      simp [h, hiff]

end


/-! ## sampling instants -/

/-- an instant of a window that is a whole number of intervals after its start -/
def Sampled (window : Window) (interval : Duration) (t : Int) : Prop :=
  window.start.toInt ≤ t ∧ t < window.stop.toInt ∧
    (interval.toNanos : Int) ∣ t - window.start.toInt

/-- the instant of epoch `k`, in the integers -/
def instant (window : Window) (interval : Duration) (k : Nat) : Int :=
  window.start.toInt + k * interval.toNanos

section
variable {entities : List Entity} {window : Window} {interval : Duration} {f : Fleet}

theorem instant_mono (window : Window) (interval : Duration) {k l : Nat} (h : k ≤ l) :
    instant window interval k ≤ instant window interval l := by
  have hmul : k * interval.toNanos ≤ l * interval.toNanos := Nat.mul_le_mul_right _ h
  unfold instant
  rw [← Int.natCast_mul, ← Int.natCast_mul]
  omega

theorem instant_injective (window : Window) {interval : Duration} (h : 0 < interval.toNanos) :
    Function.Injective (instant window interval) := by
  intro k l hkl
  unfold instant at hkl
  rw [← Int.natCast_mul, ← Int.natCast_mul] at hkl
  exact Nat.eq_of_mul_eq_mul_right h (by omega)

/-- the sampling instants are the instants of the epochs: none is missing, and there is no other -/
theorem Built.sampled_iff (hb : Built entities window interval f) {t : Int} :
    Sampled window interval t ↔ ∃ k < f.epochs.toNat, t = instant window interval k := by
  have hpos := hb.interval_pos
  constructor
  · rintro ⟨hle, hlt, d, hd⟩
    have hd0 : 0 ≤ d := by
      by_contra hneg
      have hprod : (interval.toNanos : Int) * d < 0 :=
        Int.mul_neg_of_pos_of_neg (by omega) (by omega)
      omega
    obtain ⟨k, rfl⟩ := Int.eq_ofNat_of_zero_le hd0
    rw [← Int.natCast_mul, Nat.mul_comm] at hd
    refine ⟨k, ?_, ?_⟩
    · rw [hb.epochs_eq, lt_epochCount_iff hpos]
      omega
    · rw [instant, ← Int.natCast_mul]
      omega
  · rintro ⟨k, hk, rfl⟩
    have hstop := hb.epoch_lt_stop hk
    refine ⟨?_, hstop, k, ?_⟩
    · rw [instant, ← Int.natCast_mul]
      omega
    · rw [instant, add_sub_cancel_left, Int.mul_comm]

/-! ## the times of a drain -/

/-- the times of the rows of a drain: each epoch in turn, as often as it has rows -/
theorem Built.times_drain (hb : Built entities window interval f) (s : Stream) :
    ((f.drain f.total.toNat).run s).1.1.map (·.2.timestamp.toInt)
      = ((List.range (f.epochs.toNat * (entities.length * f.slots.toNat))).map
          (· / (entities.length * f.slots.toNat))).map (instant window interval) := by
  have htotal : f.epochs.toNat * (entities.length * f.slots.toNat) = f.total.toNat := by
    rw [hb.total_eq, hb.rows_eq, Nat.mul_comm]
  have hrow : ∀ i < ((f.drain f.total.toNat).run s).1.1.length, ∃ r,
      ((f.drain f.total.toNat).run s).1.1[i]? = some r ∧ r.2.timestamp.toInt
        = instant window interval (i / (entities.length * f.slots.toNat)) := by
    intro i hi
    rw [length_drain] at hi
    obtain ⟨r, hr, hrow⟩ := hb.rows_drain s hi
    exact ⟨r, hr, hrow.time_eq⟩
  rw [htotal, List.map_map, map_eq_map_range hrow, length_drain]
  rfl

theorem pairwise_instants (window : Window) (interval : Duration) (p n : Nat) :
    (((List.range n).map (· / p)).map (instant window interval)).Pairwise (· ≤ ·) := by
  rw [List.pairwise_map, List.pairwise_map]
  refine List.pairwise_lt_range.imp ?_
  intro i j hij
  exact instant_mono window interval (Nat.div_le_div_right (Nat.le_of_lt hij))

/-- a sampling instant is the time of as many rows as an epoch has -/
theorem Built.count_times (hb : Built entities window interval f) (s : Stream) {t : Int}
    (ht : Sampled window interval t) :
    (((f.drain f.total.toNat).run s).1.1.map (·.2.timestamp.toInt)).count t
      = entities.length * f.slots.toNat := by
  obtain ⟨k, hk, rfl⟩ := hb.sampled_iff.1 ht
  have hp : 0 < entities.length * f.slots.toNat := Nat.mul_pos hb.entities_pos hb.slots_pos
  rw [hb.times_drain, List.count_map_of_injective _ _ (instant_injective window hb.interval_pos),
    count_div_range hp, if_pos hk]

theorem Built.mem_times (hb : Built entities window interval f) (s : Stream) {t : Int} :
    t ∈ ((f.drain f.total.toNat).run s).1.1.map (·.2.timestamp.toInt) ↔
      Sampled window interval t := by
  have hp : 0 < entities.length * f.slots.toNat := Nat.mul_pos hb.entities_pos hb.slots_pos
  constructor
  · intro ht
    rw [hb.times_drain] at ht
    obtain ⟨k, hk, rfl⟩ := List.mem_map.1 ht
    obtain ⟨i, hi, rfl⟩ := List.mem_map.1 hk
    refine hb.sampled_iff.2 ⟨_, ?_, rfl⟩
    exact Nat.div_lt_of_lt_mul (by rw [Nat.mul_comm]; exact List.mem_range.1 hi)
  · intro ht
    rw [← List.count_pos_iff, hb.count_times s ht]
    exact hp

theorem contains_of_sampled {t : Int64} (h : Sampled window interval t.toInt) :
    window.contains t = true := by
  obtain ⟨hle, hlt, -⟩ := h
  unfold Window.contains
  rw [Bool.and_eq_true, decide_eq_true_eq, decide_eq_true_eq, Int64.le_iff_toInt_le,
    Int64.lt_iff_toInt_lt]
  exact ⟨hle, hlt⟩

/-- **The times of a full drain.**  No epoch's time overflows.  The times never go down, and they are
the sampling instants of the window, each on as many rows as an epoch has; so every row lies in the
window and no instant is missing. -/
theorem drain_times (hacc : ofEntities entities window interval = .ok f)
    (hc : Countable entities) (s : Stream) :
    (∀ e ∈ entities, e.generators.length = f.slots.toNat) ∧
    (∀ k < f.epochs, ExactTime f k ∧
      (f.epochTime k).toInt = window.start.toInt + k.toNat * interval.toNanos) ∧
    ∃ rows f' s', (f.drain f.total.toNat).run s = ((rows, f'), s') ∧
      rows.map (·.1.toNat) = (List.range f.total.toNat).map (· + 1) ∧
      (rows.map (·.2.timestamp.toInt)).Pairwise (· ≤ ·) ∧
      (∀ t, t ∈ rows.map (·.2.timestamp.toInt) ↔ Sampled window interval t) ∧
      (∀ t, Sampled window interval t →
        (rows.map (·.2.timestamp.toInt)).count t = entities.length * f.slots.toNat) ∧
      ∀ r ∈ rows, window.contains r.2.timestamp = true := by
  have hb := built_of_ofEntities hacc hc
  have hpairwise : (((f.drain f.total.toNat).run s).1.1.map (·.2.timestamp.toInt)).Pairwise
      (· ≤ ·) := by
    rw [hb.times_drain]
    exact pairwise_instants window interval _ _
  refine ⟨hb.slots_eq, fun k hk => ⟨hb.exactTime hk, hb.toInt_epochTime hk⟩, _, _, _, rfl,
    hb.numbers_drain s, hpairwise, fun t => hb.mem_times s, fun t ht => hb.count_times s ht, ?_⟩
  intro r hr
  exact contains_of_sampled ((hb.mem_times s).1 (List.mem_map_of_mem hr))

/-- two hosts in a window from the least time on, whose length is no multiple of the interval -/
theorem drain_times_least_start :
    ∃ f, ofEntities twoHosts ⟨-9223372036854775808, -9223372034354775808⟩ (.ofSeconds 1) = .ok f ∧
      f.epochs = 3 ∧
      ∃ rows f' s', (f.drain f.total.toNat).run ⟨1⟩ = ((rows, f'), s') ∧
        (rows.map (·.2.timestamp.toInt)).count (-9223372034854775808) = 2 := by
  have hacc : ∃ f, ofEntities twoHosts ⟨-9223372036854775808, -9223372034354775808⟩ (.ofSeconds 1)
      = .ok f ∧ f.epochs = 3 ∧ f.slots = 1 := ⟨_, rfl, by decide, by decide⟩
  obtain ⟨f, hacc, hepochs, hslots⟩ := hacc
  obtain ⟨-, -, rows, f', s', hrun, -, -, -, hcount, -⟩ := drain_times hacc countable_twoHosts ⟨1⟩
  refine ⟨f, hacc, hepochs, rows, f', s', hrun, ?_⟩
  have hsampled : Sampled ⟨-9223372036854775808, -9223372034354775808⟩ (.ofSeconds 1)
      (-9223372034854775808) := by unfold Sampled; decide
  rw [hcount _ hsampled, hslots]
  rfl

end

end Telemetry.Fleet
