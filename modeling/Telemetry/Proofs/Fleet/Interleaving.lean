import Mathlib.Data.List.Nodup
import Telemetry.Proofs.Fleet.Shared

/-!
# What callers share

Whatever the order of the steps of all callers, the numbers are handed out one by one, every place
goes to one call, and every generator of an entity ticks once for each epoch of the entity, where
the ticks that are still owed count.

* `Sound`               all invariants at once;
* `Steps.sound`         every state that callers reach is sound;
* `Sound.exists_step`   no caller ever gets stuck;
* `assigned`            the places that were handed out with the numbers;
* `callers_share`       what follows for every run.
-/

namespace Telemetry.Fleet

open Telemetry.Random Finset

/-- all that holds between any two steps -/
structure Sound {n : Nat} (f : Fleet) (trace : List (Event n)) (w : World n) : Prop where
  alike : Alike f w.fleet
  counted : Counted trace w
  held : Held f trace w
  balanced : Balanced trace w
  reached : Reached f trace w
  bounded : Bounded f w
  drawn : Drawn f trace

section
variable {entities : List Entity} {window : Window} {interval : Duration} {f : Fleet}
variable {n : Nat} {streams : Fin n → Stream} {w : World n} {trace : List (Event n)}

theorem Built.sound_start (hb : Built entities window interval f)
    (hfresh : ∀ e ∈ entities, e.tickedEpoch = 0) (streams : Fin n → Stream) :
    Sound f [] (World.start f streams) := by
  have hticked : ∀ (i : Nat) (e : Entity), f.entities[i]? = some e → e.tickedEpoch.toNat = 0 := by
    intro i e he
    rw [hb.getElem?_entities] at he
    rw [hfresh e (List.mem_of_getElem? he)]
    rfl
  refine
    { alike := Alike.refl f
      counted := ⟨?_, rfl⟩
      held := ?_
      balanced := ?_
      reached := ?_
      bounded := ?_
      drawn := ?_ }
  · show f.made.toNat = 0
    rw [hb.made_eq]
    rfl
  · intro c number spot hheld
    exact absurd hheld (Option.some_ne_none _).symm
  · intro i e he j _
    have howed : (World.start f streams).owed i j = 0 := sum_eq_zero fun c _ => rfl
    rw [hticked i e he, howed]
    rfl
  · intro i hi
    exact absurd hi (Nat.not_lt_zero i)
  · intro i e he
    rw [hticked i e he]
    exact hb.epochs_pos
  · intro c number spot p row hmem
    exact absurd hmem List.not_mem_nil

theorem Sound.step (hb : Built entities window interval f) {w' : World n} {event : Event n}
    (h : Sound f trace w) (hstep : Step w event w')
    (htakes : (takes (trace ++ [event])).length < UInt64.size) : Sound f (trace ++ [event]) w' where
  alike := h.alike.trans hstep.alike
  counted := h.counted.step hstep htakes
  held := h.held.step h.alike h.counted hstep htakes
  balanced := h.balanced.step hstep
  reached := h.reached.step h.alike h.counted hstep
  bounded := h.bounded.step hb h.held hstep
  drawn := h.drawn.step h.alike h.held hstep

/-- every state that callers reach is sound -/
theorem Steps.sound (hb : Built entities window interval f)
    (hfresh : ∀ e ∈ entities, e.tickedEpoch = 0) (hsteps : Steps (World.start f streams) trace w)
    (htakes : (takes trace).length < UInt64.size) : Sound f trace w := by
  induction hsteps with
  | refl => exact hb.sound_start hfresh streams
  | tail hsteps hstep ih =>
    refine (ih ?_).step hb hstep htakes
    rw [takes, List.filterMap_append, List.length_append] at htakes
    exact Nat.lt_of_le_of_lt (Nat.le_add_right _ _) htakes

/-- what a caller works at exists -/
theorem Sound.exists_generator (hb : Built entities window interval f) (h : Sound f trace w)
    {c : Fin n} {number : UInt64} {spot : Place} (hheld : (w.phase c).held? = some (number, spot)) :
    ∃ e g, w.fleet.entities[spot.entity]? = some e ∧ e.generators[spot.slot]? = some g := by
  obtain rfl := (h.held c number spot hheld).spot_eq
  obtain ⟨e₀, g₀, he₀, hg₀⟩ := hb.exists_row (number - 1).toNat
  have he : f.entities[(f.place (number - 1)).entity]? = some e₀ := by
    rw [hb.place_eq, hb.getElem?_entities, he₀]
  have hg : e₀.generators[(f.place (number - 1)).slot]? = some g₀ := by
    rw [hb.place_eq, hg₀]
  obtain ⟨e, he', hlayout⟩ := h.alike.entity he
  obtain ⟨g, hg', -⟩ := Entity.generator_of_layout hlayout hg
  exact ⟨e, g, he', hg'⟩

/-- no caller ever gets stuck -/
theorem Sound.exists_step (hb : Built entities window interval f) (h : Sound f trace w)
    (c : Fin n) : ∃ event w', Step w event w' ∧ event.caller = c := by
  cases hphase : w.phase c with
  | idle => exact ⟨_, _, .take hphase {}, rfl⟩
  | numbered number spot p =>
    obtain ⟨e, g, he, -⟩ := h.exists_generator hb (c := c) (by rw [hphase]; rfl)
    exact ⟨_, _, .raise hphase he, rfl⟩
  | ticking number spot p owed =>
    obtain ⟨e, g, he, hg⟩ := h.exists_generator hb (c := c) (by rw [hphase]; rfl)
    cases owed with
    | nil => exact ⟨_, _, .emit hphase he hg, rfl⟩
    | cons slot owed => exact ⟨_, _, .tick hphase he, rfl⟩

/-! ## consequences -/

/-- the places of the numbers handed out, as far as they have one -/
def assigned (f : Fleet) (trace : List (Event n)) : List Place :=
  (((takes trace).map (·.2)).filter (· ≤ f.total.toNat)).map fun i => f.place (i - 1).toUInt64

theorem Counted.nodup (h : Counted trace w) : ((takes trace).map (·.2)).Nodup := by
  rw [h.numbers_eq]
  exact List.nodup_range.map fun i j hij => Nat.succ.inj hij

theorem Counted.pos (h : Counted trace w) {i : Nat} (hi : i ∈ (takes trace).map (·.2)) : 0 < i := by
  rw [h.numbers_eq] at hi
  obtain ⟨j, -, rfl⟩ := List.mem_map.1 hi
  exact Nat.succ_pos j

/-- the numbers of one caller go up -/
theorem Counted.pairwise (h : Counted trace w) (c : Fin n) :
    (((takes trace).filter (·.1 = c)).map (·.2)).Pairwise (· < ·) := by
  refine List.Pairwise.sublist (List.filter_sublist.map _) ?_
  rw [h.numbers_eq, List.pairwise_map]
  exact List.pairwise_lt_range.imp fun hlt => Nat.succ_lt_succ hlt

theorem Counted.nodup_assigned (hb : Built entities window interval f) (h : Counted trace w) :
    (assigned f trace).Nodup := by
  refine List.Nodup.map_on ?_ (h.nodup.filter _)
  intro i hi j hj hij
  have htotal := f.total.toNat_lt_size
  rw [List.mem_filter, decide_eq_true_eq] at hi hj
  have hpos := h.pos hi.1
  have hpos' := h.pos hj.1
  have hindex := hb.rowIndex_place (i - 1).toUInt64
  rw [hij, hb.rowIndex_place, Word.toNat_toUInt64_of_lt (by omega),
    Word.toNat_toUInt64_of_lt (by omega)]
    at hindex
  omega

/-- with as many calls as rows every place is assigned -/
theorem Counted.mem_assigned (hb : Built entities window interval f) (h : Counted trace w)
    (htotal : f.total.toNat ≤ (takes trace).length) {k i m : Nat} (hk : k < f.epochs.toNat)
    (hi : i < entities.length) (hm : m < f.slots.toNat) :
    (⟨i, m, k.toUInt64⟩ : Place) ∈ assigned f trace := by
  have hlt := hb.rowIndex_lt_total hk hi hm
  refine List.mem_map.2 ⟨rowIndex entities.length f.slots.toNat k i m + 1, ?_, ?_⟩
  · rw [List.mem_filter, h.numbers_eq, decide_eq_true_eq]
    exact ⟨List.mem_map.2 ⟨_, List.mem_range.2 (by omega), rfl⟩, hlt⟩
  · rw [Nat.add_sub_cancel]
    exact hb.place_rowIndex hk hi hm

/-- with as many calls as rows, and no call under way, every entity is in the last epoch -/
theorem Sound.tickedEpoch_of_idle (hb : Built entities window interval f) (h : Sound f trace w)
    (hidle : ∀ c, w.phase c = .idle) (htotal : f.total.toNat ≤ (takes trace).length) {i : Nat}
    {e : Entity} (he : w.fleet.entities[i]? = some e) :
    e.tickedEpoch.toNat + 1 = f.epochs.toNat := by
  have hsize := h.alike.size
  have hi : i < entities.length := by
    have hlt := (Array.getElem?_eq_some_iff.1 he).1
    rwa [hsize, hb.entities_eq, List.size_toArray] at hlt
  have hpos := hb.epochs_pos
  have hk : f.epochs.toNat - 1 < f.epochs.toNat := by omega
  have hlt := hb.rowIndex_lt_total hk hi hb.slots_pos
  have hplace := hb.place_rowIndex hk hi hb.slots_pos
  have hbound := h.bounded i e he
  rcases h.reached _ (by omega) hlt with ⟨c, number, p, hphase⟩ | ⟨e', he', hle⟩
  · rw [hidle c] at hphase
    exact absurd hphase (by simp)
  · rw [hplace] at he' hle
    have hsame : some e' = some e := he'.symm.trans he
    obtain rfl := Option.some.inj hsame
    have hepoch : (f.epochs.toNat - 1).toUInt64.toNat = f.epochs.toNat - 1 :=
      Word.toNat_toUInt64_of_lt (by have := f.epochs.toNat_lt_size; omega)
    have hle' : (f.epochs.toNat - 1).toUInt64.toNat ≤ e'.tickedEpoch.toNat := hle
    omega

/-- an entity stays in its place, with its slots -/
theorem Sound.exists_entity (hb : Built entities window interval f) (h : Sound f trace w) {i : Nat}
    (hi : i < entities.length) :
    ∃ e, w.fleet.entities[i]? = some e ∧ e.generators.length = f.slots.toNat := by
  have he : f.entities[i]? = some entities[i] := by
    rw [hb.getElem?_entities, List.getElem?_eq_getElem hi]
  obtain ⟨e, he', hlayout⟩ := h.alike.entity he
  refine ⟨e, he', ?_⟩
  rw [Entity.length_of_layout hlayout, hb.slots_eq _ (List.getElem_mem hi)]

/-- **Callers that share a fresh fleet**, in any number and with their steps in any order.  The
numbers handed out are those from one on, and go up for each caller.  Every place is assigned to at
most one call, to exactly one when there were as many calls as rows, and the rows that were made are
rows of these places.  For every slot of every entity the ticks made and the ticks owed make the
epoch of the entity; and when all calls are over, that is the last one. -/
theorem callers_share (hacc : ofEntities entities window interval = .ok f)
    (hc : Countable entities) (hfresh : ∀ e ∈ entities, e.tickedEpoch = 0)
    (hsteps : Steps (World.start f streams) trace w) (htakes : (takes trace).length < UInt64.size) :
    ((takes trace).map (·.2) = (List.range (takes trace).length).map (· + 1) ∧
      ((takes trace).map (·.2)).Nodup ∧
      ∀ c, (((takes trace).filter (·.1 = c)).map (·.2)).Pairwise (· < ·)) ∧
    (∀ k < f.epochs.toNat, ∀ i < entities.length, ∀ m < f.slots.toNat,
      (assigned f trace).count ⟨i, m, k.toUInt64⟩ ≤ 1 ∧
      (f.total.toNat ≤ (takes trace).length →
        (assigned f trace).count ⟨i, m, k.toUInt64⟩ = 1)) ∧
    Drawn f trace ∧
    ∀ i < entities.length, ∃ e, w.fleet.entities[i]? = some e ∧
      e.generators.length = f.slots.toNat ∧
      (∀ j < f.slots.toNat, ticks trace i j + w.owed i j = e.tickedEpoch.toNat) ∧
      ((∀ c, w.phase c = .idle) → f.total.toNat ≤ (takes trace).length →
        e.tickedEpoch.toNat + 1 = f.epochs.toNat ∧
        ∀ j < f.slots.toNat, ticks trace i j + 1 = f.epochs.toNat) := by
  have hb := built_of_ofEntities hacc hc
  have hsound := hsteps.sound hb hfresh htakes
  have hcounted := hsound.counted
  refine ⟨⟨hcounted.numbers_eq, hcounted.nodup, hcounted.pairwise⟩, ?_, hsound.drawn, ?_⟩
  · intro k hk i hi m hm
    have hnodup := hcounted.nodup_assigned hb
    refine ⟨List.nodup_iff_count_le_one.1 hnodup _, fun htotal => ?_⟩
    exact List.count_eq_one_of_mem hnodup (hcounted.mem_assigned hb htotal hk hi hm)
  · intro i hi
    obtain ⟨e, he, hlength⟩ := hsound.exists_entity hb hi
    have hbalance := hsound.balanced i e he
    rw [hlength] at hbalance
    refine ⟨e, he, hlength, hbalance, fun hidle htotal => ?_⟩
    have hlast := hsound.tickedEpoch_of_idle hb hidle htotal he
    refine ⟨hlast, fun j hj => ?_⟩
    have howed : w.owed i j = 0 := sum_eq_zero fun c _ => by
      rw [hidle c]
      rfl
    have hticks := hbalance j hj
    omega

/-- two callers: while the first one holds number one, the second one makes rows two to four, takes
number five and raises the first host for it, and only then the first one makes its row.  One tick of
that host is still owed. -/
theorem callers_share_two_callers :
    ∃ f, ofEntities twoHosts ⟨0, 3000000000⟩ (.ofSeconds 1) = .ok f ∧
      ∃ (trace : List (Event 2)) (w : World 2), Steps (World.start f fun _ => ⟨1⟩) trace w ∧
        (takes trace).map (·.1) = [0, 1, 1, 1, 1] ∧ (takes trace).map (·.2) = [1, 2, 3, 4, 5] ∧
        ticks trace 0 0 = 1 ∧ w.owed 0 0 = 1 ∧
        ∃ e, w.fleet.entities[0]? = some e ∧ e.tickedEpoch.toNat = 2 := by
  have hrun : ∃ f, ofEntities twoHosts ⟨0, 3000000000⟩ (.ofSeconds 1) = .ok f ∧
      ((World.start f fun _ : Fin 2 => ⟨1⟩).run [0, 1, 1, 1, 1, 1, 1, 1, 1, 1, 1, 1, 1, 1, 0, 0]).map
          (fun (trace, w) => ((takes trace).map (·.1), ticks trace 0 0,
            (w.fleet.entities[0]?).map (·.tickedEpoch.toNat)))
        = some ([0, 1, 1, 1, 1], 1, some 2) := ⟨_, rfl, by decide +kernel⟩
  obtain ⟨f, hacc, hrun⟩ := hrun
  obtain ⟨⟨trace, w⟩, hrun, hends⟩ := Option.map_eq_some_iff.1 hrun
  obtain ⟨hcallers, hends⟩ := Prod.mk.inj hends
  obtain ⟨hticks, hepoch⟩ := Prod.mk.inj hends
  have hsteps := World.run_steps hrun
  have hlength : (takes trace).length = 5 := by
    rw [← List.length_map (·.1), hcallers]
    rfl
  have hfew : (takes trace).length < UInt64.size := by
    rw [hlength]
    decide
  obtain ⟨⟨hnumbers, -⟩, -, -, hentities⟩ :=
    callers_share hacc countable_twoHosts fresh_twoHosts hsteps hfew
  rw [hlength] at hnumbers
  obtain ⟨e, he, -, hbalance, -⟩ := hentities 0 (by decide)
  rw [he] at hepoch
  have hepoch : e.tickedEpoch.toNat = 2 := Option.some.inj hepoch
  have howed := hbalance 0 (built_of_ofEntities hacc countable_twoHosts).slots_pos
  rw [hticks, hepoch] at howed
  exact ⟨f, hacc, trace, w, hsteps, hcallers, hnumbers, hticks, by omega, e, he, hepoch⟩

end

end Telemetry.Fleet
