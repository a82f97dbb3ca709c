import Mathlib.Algebra.Order.Floor.Div
import Telemetry.Proofs.Entity.Fresh
import Telemetry.Proofs.Fleet.Built

/-!
# Which entities make a fleet

* `answers_build`, `lost_build`  the entities that are built, by their numbers: all of them where
                     the last number is a word, and none otherwise;
* `Uniform m keys`   entities that have `m` measurements and these tag keys each;
* `ofEntities_iff`   what uniform entities, a window and an interval must satisfy to be accepted,
                     where the rows of one epoch can be counted.
-/

namespace Telemetry

open Telemetry.Random

namespace Fleet

section
variable {count offset : UInt64} {make : UInt64 → Choice Entity} {P : UInt64 → Entity → Prop}

theorem answers_numbered (h : ∀ n, Always (P n) (make n)) {i : Nat}
    (hlt : i + offset.toNat < 2 ^ 64) :
    Answers (P (i.toUInt64 + offset)) (Entity.numbered i.toUInt64 offset make) := by
  have hword : i.toUInt64.toNat = i := UInt64.toNat_ofNat_of_lt' (show i < 2 ^ 64 by omega)
  rw [Entity.numbered_of_lt make (by rw [hword]; exact hlt)]
  exact answers_lift (h _)

theorem lost_numbered {i : Nat} (hword : i < 2 ^ 64) (hle : 2 ^ 64 ≤ i + offset.toNat) :
    Lost (Entity.numbered i.toUInt64 offset make) := by
  have hi : i.toUInt64.toNat = i := UInt64.toNat_ofNat_of_lt' hword
  rw [Entity.numbered_of_le make (by rw [hi]; exact hle)]
  exact lost_failure

theorem answers_build (h : ∀ n, Always (P n) (make n))
    (hfit : offset.toNat + count.toNat ≤ 2 ^ 64) :
    Answers (fun es => es.length = count.toNat ∧
        ∀ (i : Nat) e, es[i]? = some e → P (i.toUInt64 + offset) e)
      (build count fun i => Entity.numbered i offset make) := by
  have hmap : Answers (List.Forall₂ (fun i e => P (i.toUInt64 + offset) e) (List.range count.toNat))
      (build count fun i => Entity.numbered i offset make) := answers_mapM fun i hi =>
    answers_numbered h (by have hlt := List.mem_range.1 hi; omega)
  refine hmap.imp ?_
  rintro _ ⟨es, rfl, hes⟩
  have hlength := hes.length_eq
  rw [List.length_range] at hlength
  refine ⟨es, rfl, hlength.symm, fun i e hi => ?_⟩
  obtain ⟨hlt, hget⟩ := List.getElem?_eq_some_iff.1 hi
  have hentity := hes.get (i := i) (by rw [List.length_range]; omega) hlt
  rwa [List.get_eq_getElem, List.get_eq_getElem, List.getElem_range, hget] at hentity

/-- the last entity is lost, and so are all of them -/
theorem lost_build (make : UInt64 → Choice Entity)
    (hlong : 2 ^ 64 < offset.toNat + count.toNat) :
    Lost (build count fun i => Entity.numbered i offset make) := by
  have hoffset := offset.toNat_lt
  have hcount := count.toNat_lt
  have hlast : count.toNat - 1 ∈ List.range count.toNat := List.mem_range.2 (by omega)
  refine lost_mapM (fun i hi => ?_) hlast (lost_numbered (by omega) (by omega))
  have hlt := List.mem_range.1 hi
  rcases Nat.lt_or_ge (i + offset.toNat) (2 ^ 64) with hnumber | hnumber
  · exact .inl (answers_numbered (P := fun _ _ => True) (fun _ _ => trivial) hnumber)
  · exact .inr (lost_numbered (by omega) hnumber)

/-- entities that have been built have words for numbers -/
theorem built_numbered {a : Attributes} {es : List Entity} (h : ∀ n, Always (P n) (make n))
    (hbuilt : ((build count fun i => Entity.numbered i offset make).run.run a).1 = some es) :
    offset.toNat + count.toNat ≤ 2 ^ 64 ∧ es.length = count.toNat ∧
      ∀ (i : Nat) e, es[i]? = some e → P (i.toUInt64 + offset) e := by
  rcases Nat.lt_or_ge (2 ^ 64) (offset.toNat + count.toNat) with hlong | hfit
  · have hlost := lost_build make hlong a
    rw [hbuilt] at hlost
    exact nomatch hlost
  · obtain ⟨_, hes, hnumbers⟩ := answers_build h hfit a
    rw [hbuilt] at hes
    obtain rfl := Option.some.inj hes
    exact ⟨hfit, hnumbers⟩

end

theorem devices_of_error {d : Devices} {regions : RegionTable} {fault : ConfigFault}
    (hcount : d.count ≠ 0) (h : Device.check regions d.perSite = .error fault) :
    devices d regions = return .error fault := by
  rw [devices, if_neg hcount, h]

theorem devices_of_ok {d : Devices} {regions : RegionTable}
    (h : Device.check regions d.perSite = .ok ()) :
    devices d regions = do
      let entities ← build d.count fun i =>
        Device.new i d.offset d.window.start d.perSite regions d.overrides
      return ofEntities entities d.window d.interval := by
  rw [devices, h, ite_self]

/-! ## the checks -/

/-- entities of one schema -/
structure Uniform (m : Nat) (keys : List String) (entities : List Entity) : Prop where
  length_eq : ∀ e ∈ entities, e.generators.length = m
  keys_eq : ∀ e ∈ entities, e.tagKeys = keys

section
variable {entities : List Entity} {window : Window} {interval : Duration} {m : Nat}
  {keys : List String}

theorem Uniform.countable (h : Uniform m keys entities) (hrows : entities.length * m < 2 ^ 64) :
    Countable entities := by
  intro e he
  rw [h.length_eq e he]
  exact hrows

theorem Built.slots_uniform {f : Fleet} (hb : Built entities window interval f)
    (h : Uniform m keys entities) : f.slots.toNat = m := by
  have hmem := List.getElem_mem hb.entities_pos
  rw [← hb.slots_eq _ hmem, h.length_eq _ hmem]

theorem Built.total_uniform {f : Fleet} (hb : Built entities window interval f)
    (h : Uniform m keys entities) : f.total.toNat = entities.length * m *
      ((window.stop.toInt - window.start.toInt).toNat ⌈/⌉ interval.toNanos) := by
  rw [hb.total_eq, hb.rows_eq, hb.epochs_eq, hb.slots_uniform h]
  rfl

/-- what a window, an interval and a number of rows in each epoch must satisfy -/
structure Fits (rows : Nat) (window : Window) (interval : Duration) : Prop where
  start_lt : window.start.toInt < window.stop.toInt
  span_le : window.stop.toInt - window.start.toInt ≤ 9223372036854775807
  interval_pos : 0 < interval.toNanos
  interval_le : interval.toNanos ≤ 9223372036854775807
  total_lt : rows * ((window.stop.toInt - window.start.toInt).toNat ⌈/⌉ interval.toNanos) < 2 ^ 64

theorem Built.fits {f : Fleet} (hb : Built entities window interval f)
    (h : Uniform m keys entities) : Fits (entities.length * m) window interval where
  start_lt := hb.start_lt_stop
  span_le := Int.lt_add_one_iff.1 hb.span_lt
  interval_pos := hb.interval_pos
  interval_le := by
    have hlt := f.intervalNanos.toInt_lt
    rw [hb.nanos_eq] at hlt
    omega
  total_lt := by
    rw [← hb.total_uniform h]
    exact f.total.toNat_lt

theorem Fits.ofEntities (hfits : Fits (entities.length * m) window interval)
    (h : Uniform m keys entities) (hpos : 0 < entities.length) (hm : 0 < m)
    (hrows : entities.length * m < 2 ^ 64) : ∃ f, ofEntities entities window interval = .ok f := by
  cases entities with
  | nil => exact absurd hpos (Nat.not_lt_zero _)
  | cons first rest =>
    have hslots : first.generators.length = m := h.length_eq first List.mem_cons_self
    have hkeys : first.tagKeys = keys := h.keys_eq first List.mem_cons_self
    have hall : (first :: rest).all (fits m keys) = true := by
      refine List.all_eq_true.2 fun e he => ?_
      rw [fits, h.length_eq e he, h.keys_eq e he, beq_self_eq_true, beq_self_eq_true]
      rfl
    have hzero : ¬ interval.isZero = true := fun hz =>
      Nat.ne_of_gt hfits.interval_pos (Duration.isZero_iff.1 hz)
    have hle := hfits.interval_le
    have hlt := hfits.start_lt
    have hspan := hfits.span_le
    obtain ⟨step, hstep⟩ := Word.exists_signed? (i := interval.toNanos) (by omega) (by omega)
    obtain ⟨span, hlength⟩ :=
      Word.exists_signed? (i := window.stop.toInt - window.start.toInt) (by omega) (by omega)
    have hnanos : intervalNanos? interval = some step := by rw [intervalNanos?, if_neg hzero, hstep]
    have hlength' : window.length? = some span := hlength
    have htotal : ((first :: rest).length.toUInt64 * m.toUInt64).toNat
        * epochCount span.toInt.toNat step.toInt.toNat < UInt64.size := by
      rw [toNat_rows hpos hm hrows, Word.signed?_eq_some.1 hstep, Word.signed?_eq_some.1 hlength]
      exact hfits.total_lt
    unfold Fleet.ofEntities
    simp only [hslots, hkeys, if_neg (Nat.ne_of_gt hm), hall, hnanos,
      if_neg (Window.not_isEmpty_iff.2 hlt), hlength', if_pos htotal]
    exact ⟨_, rfl⟩

/-- **Acceptance.**  Entities of one schema make a fleet exactly where the window and the interval
fit. -/
theorem ofEntities_iff (h : Uniform m keys entities) (hpos : 0 < entities.length) (hm : 0 < m)
    (hrows : entities.length * m < 2 ^ 64) :
    (∃ f, ofEntities entities window interval = .ok f)
      ↔ Fits (entities.length * m) window interval := by
  constructor
  · rintro ⟨f, hf⟩
    exact (built_of_ofEntities hf (h.countable hrows)).fits h
  · intro hfits
    exact hfits.ofEntities h hpos hm hrows

end

end Fleet

end Telemetry
