import Mathlib.Algebra.BigOperators.Group.Finset.Basic
import Mathlib.Data.Fintype.Basic
import Telemetry.Proofs.Fleet.Callers
import Telemetry.Proofs.Fleet.Place

/-!
# What every step of a caller keeps

The invariants of callers that share a fleet, each with the lemma that one step of one caller keeps
it.

* `takes`, `ticks`, `World.owed`  numbers handed out, ticks made, and ticks owed;
* `Counted`     the numbers handed out are those from one on;
* `Held`        the place that a caller works at is the place of a number that it has taken;
* `Balanced`    ticks made and ticks owed make the epoch of the entity;
* `Reached`     the epoch of a number is reached, unless its caller has yet to raise it;
* `Bounded`     no entity is ahead of the last epoch;
* `Drawn`       a row that was made is the row of a number that its caller has taken.
-/

namespace Telemetry.Fleet

open Telemetry.Random Finset

/-! ## what a run has done -/

/-- the caller and the number, where a number is handed out -/
def Event.take? {n : Nat} : Event n → Option (Fin n × Nat)
  | .took c number => some (c, number.toNat)
  | _ => none

/-- the numbers handed out, in order, each with its caller -/
def takes {n : Nat} (trace : List (Event n)) : List (Fin n × Nat) := trace.filterMap Event.take?

/-- whether a step ticks a slot of an entity -/
def Event.isTick {n : Nat} (i j : Nat) : Event n → Bool
  | .ticked _ entity slot => entity == i && slot == j
  | _ => false

/-- the number of ticks of a slot of an entity -/
def ticks {n : Nat} (trace : List (Event n)) (i j : Nat) : Nat := trace.countP (Event.isTick i j)

/-- the ticks that a caller owes to a slot of an entity -/
def Phase.owed (i j : Nat) : Phase → Nat
  | .ticking _ spot _ owed => if spot.entity = i then owed.count j else 0
  | _ => 0

theorem Phase.owed_idle (i j : Nat) : Phase.idle.owed i j = 0 := rfl

theorem Phase.owed_numbered (i j : Nat) (number : UInt64) (spot : Place) (p : Point) :
    (Phase.numbered number spot p).owed i j = 0 := rfl

theorem Phase.owed_ticking (i j : Nat) (number : UInt64) (spot : Place) (p : Point)
    (owed : List Nat) : (Phase.ticking number spot p owed).owed i j
      = if spot.entity = i then owed.count j else 0 := rfl

/-- the ticks that all callers owe to a slot of an entity -/
def World.owed {n : Nat} (w : World n) (i j : Nat) : Nat := ∑ c, (w.phase c).owed i j

/-- the number and the place that a caller works at -/
def Phase.held? : Phase → Option (UInt64 × Place)
  | .idle => none
  | .numbered number spot _ | .ticking number spot _ _ => some (number, spot)

section
variable {n : Nat} {w w' : World n} {c : Fin n} {trace : List (Event n)} {event : Event n}

theorem takes_append_took (trace : List (Event n)) (c : Fin n) (number : UInt64) :
    takes (trace ++ [.took c number]) = takes trace ++ [(c, number.toNat)] :=
  List.filterMap_append

theorem takes_append_of_none (h : event.take? = none) : takes (trace ++ [event]) = takes trace := by
  rw [takes, List.filterMap_append, List.filterMap_cons_none h, List.filterMap_nil, List.append_nil,
    takes]

theorem takes_mono (trace : List (Event n)) (event : Event n) :
    ∀ t ∈ takes trace, t ∈ takes (trace ++ [event]) := by
  intro t ht
  rw [takes, List.filterMap_append]
  exact List.mem_append_left _ ht

theorem ticks_append (trace : List (Event n)) (event : Event n) (i j : Nat) :
    ticks (trace ++ [event]) i j = ticks trace i j + if event.isTick i j then 1 else 0 := by
  rw [ticks, List.countP_append, List.countP_singleton, ticks]

theorem World.phase_move_ne {c' : Fin n} (h : c' ≠ c) (w : World n) (f : Fleet) (phase : Phase) :
    (w.move c f phase).phase c' = w.phase c' := Function.update_of_ne h _ _

/-- what a caller owes changes with its phase, and nothing else does -/
theorem World.owed_move (w : World n) (c : Fin n) (f : Fleet) (phase : Phase) (i j : Nat) :
    (w.move c f phase).owed i j + (w.phase c).owed i j = w.owed i j + phase.owed i j := by
  have hrest : ∑ x ∈ univ.erase c, ((w.move c f phase).phase x).owed i j
      = ∑ x ∈ univ.erase c, (w.phase x).owed i j := by
    apply sum_congr rfl
    intro x hx
    rw [w.phase_move_ne (ne_of_mem_erase hx)]
  unfold World.owed
  rw [← add_sum_erase _ _ (mem_univ c), ← add_sum_erase univ (fun c => (w.phase c).owed i j)
    (mem_univ c), hrest, w.phase_move]
  omega

/-- the ticks owed after a raise: one for each epoch that was passed -/
theorem count_owed (e : Entity) (epoch : UInt64) {j : Nat} (hj : j < e.generators.length) :
    (e.owed epoch).count j = e.behind epoch := by
  rw [Entity.owed, List.count_flatten, List.map_replicate, List.sum_replicate_nat, List.count_range,
    if_pos hj, Nat.mul_one]

end

/-! ## the invariants, one step at a time -/

/-- the numbers handed out are those from one on, and the fleet counts them -/
structure Counted {n : Nat} (trace : List (Event n)) (w : World n) : Prop where
  made_eq : w.fleet.made.toNat = (takes trace).length
  numbers_eq : (takes trace).map (·.2) = (List.range (takes trace).length).map (· + 1)

/-- a caller has taken a number up to the total, and a place is the place of this number -/
structure Holds {n : Nat} (f : Fleet) (trace : List (Event n)) (c : Fin n) (number : UInt64)
    (spot : Place) : Prop where
  taken : (c, number.toNat) ∈ takes trace
  pos : 0 < number.toNat
  le_total : number.toNat ≤ f.total.toNat
  spot_eq : spot = f.place (number - 1)

/-- a caller at work holds its number and its place -/
def Held {n : Nat} (f : Fleet) (trace : List (Event n)) (w : World n) : Prop :=
  ∀ c number spot, (w.phase c).held? = some (number, spot) → Holds f trace c number spot

/-- ticks made and ticks owed make the epoch of each entity -/
def Balanced {n : Nat} (trace : List (Event n)) (w : World n) : Prop :=
  ∀ i e, w.fleet.entities[i]? = some e → ∀ j < e.generators.length,
    ticks trace i j + w.owed i j = e.tickedEpoch.toNat

/-- the epoch of each number is reached, unless its caller has yet to raise it -/
def Reached {n : Nat} (f : Fleet) (trace : List (Event n)) (w : World n) : Prop :=
  ∀ i < (takes trace).length, i < f.total.toNat →
    (∃ c number p, w.phase c = .numbered number (f.place i.toUInt64) p) ∨
      ∃ e : Entity, w.fleet.entities[(f.place i.toUInt64).entity]? = some e ∧
        (f.place i.toUInt64).epoch.toNat ≤ e.tickedEpoch.toNat

/-- no entity is ahead of the last epoch -/
def Bounded {n : Nat} (f : Fleet) (w : World n) : Prop :=
  ∀ (i : Nat) (e : Entity), w.fleet.entities[i]? = some e → e.tickedEpoch.toNat < f.epochs.toNat

/-- a row that was made is the row of the place of a number that its caller took -/
def Drawn {n : Nat} (f : Fleet) (trace : List (Event n)) : Prop :=
  ∀ c number spot p row, .emitted c number spot p row ∈ trace → Holds f trace c number spot ∧
    ∃ e gen, f.entities[spot.entity]? = some e ∧ e.generators[spot.slot]? = some gen ∧
      Adds e gen (f.epochTime spot.epoch) p row

section
variable {n : Nat} {f : Fleet} {w w' : World n} {trace : List (Event n)} {event : Event n}

/-- steps keep the fleet -/
theorem Step.alike (hstep : Step w event w') : Alike w.fleet w'.fleet := by
  cases hstep with
  | take hphase p => exact Alike.count _
  | @raise c number spot p e hphase he => exact Alike.put he (e.layout_raise _)
  | @tick c number spot p slot owed e hphase he => exact Alike.put he (e.layout_tickSlot _ slot)
  | emit hphase he hg => exact Alike.store he (Entity.layout_after hg _) _

/-- the next number is one more than the numbers so far -/
theorem Counted.next (h : Counted trace w) (hlt : (takes trace).length + 1 < UInt64.size) :
    (w.fleet.made + 1).toNat = (takes trace).length + 1 := by
  rw [Word.toNat_succ (by rwa [h.made_eq]), h.made_eq]

theorem Counted.keep (h : Counted trace w) (hnone : event.take? = none)
    (hmade : w'.fleet.made = w.fleet.made) : Counted (trace ++ [event]) w' := by
  constructor
  · rw [takes_append_of_none hnone, hmade, h.made_eq]
  · rw [takes_append_of_none hnone, h.numbers_eq]

theorem Counted.step (h : Counted trace w) (hstep : Step w event w')
    (htakes : (takes (trace ++ [event])).length < UInt64.size) :
    Counted (trace ++ [event]) w' := by
  cases hstep with
  | @take c hphase p =>
    rw [takes_append_took, List.length_append, List.length_singleton] at htakes
    have hnumber := h.next htakes
    constructor
    · rw [takes_append_took, List.length_append, List.length_singleton]
      exact hnumber
    · rw [takes_append_took, List.map_append, List.length_append, List.length_singleton,
        List.range_succ, List.map_append, h.numbers_eq, List.map_singleton, List.map_singleton,
        hnumber]
  | raise hphase he => exact h.keep rfl rfl
  | tick hphase he => exact h.keep rfl rfl
  | emit hphase he hg => exact h.keep rfl rfl

theorem Holds.append {c : Fin n} {number : UInt64} {spot : Place}
    (h : Holds f trace c number spot) (event : Event n) :
    Holds f (trace ++ [event]) c number spot :=
  { h with taken := takes_mono trace event _ h.taken }

/-- a caller in a new phase -/
theorem Held.move (h : Held f trace w) {c : Fin n} {g : Fleet} {phase : Phase} (event : Event n)
    (hphase : ∀ number spot, phase.held? = some (number, spot) →
      Holds f (trace ++ [event]) c number spot) :
    Held f (trace ++ [event]) (w.move c g phase) := by
  intro c' number spot hheld
  by_cases hc : c' = c
  · subst hc
    rw [w.phase_move] at hheld
    exact hphase number spot hheld
  · rw [w.phase_move_ne hc] at hheld
    exact (h c' number spot hheld).append event

/-- a caller that goes on with what it holds -/
theorem Held.keep (h : Held f trace w) {c : Fin n} {g : Fleet} {phase : Phase} (event : Event n)
    (hsame : phase.held? = (w.phase c).held?) :
    Held f (trace ++ [event]) (w.move c g phase) := by
  refine h.move event ?_
  intro number spot hsome
  rw [hsame] at hsome
  exact (h c number spot hsome).append event

theorem Held.step (h : Held f trace w) (ha : Alike f w.fleet) (hcounted : Counted trace w)
    (hstep : Step w event w') (htakes : (takes (trace ++ [event])).length < UInt64.size) :
    Held f (trace ++ [event]) w' := by
  cases hstep with
  | @take c hphase p =>
    refine h.move _ ?_
    intro number spot hheld
    split at hheld
    · exact absurd hheld (Option.some_ne_none _).symm
    · rename_i hlt
      rw [takes_append_took, List.length_append, List.length_singleton] at htakes
      have hnumber := hcounted.next htakes
      obtain ⟨rfl, rfl⟩ := Prod.mk.inj (Option.some.inj hheld)
      rw [ha.total, UInt64.lt_iff_toNat_lt, Nat.not_lt] at hlt
      refine ⟨?_, by omega, hlt, ha.place _⟩
      rw [takes_append_took]
      exact List.mem_append_right _ (List.mem_singleton_self _)
  | raise hphase he => exact h.keep _ (by rw [hphase]; rfl)
  | tick hphase he => exact h.keep _ (by rw [hphase]; rfl)
  | @emit c number spot p e g hphase he hg =>
    exact @Held.move n f w trace h c w.fleet .idle _ fun _ _ hsome =>
      absurd hsome (Option.some_ne_none _).symm

theorem toNat_raise (e : Entity) (epoch : UInt64) :
    (e.raise epoch).tickedEpoch.toNat = e.tickedEpoch.toNat + e.behind epoch := by
  unfold Entity.raise Entity.behind
  split
  · rename_i hlt
    rw [UInt64.lt_iff_toNat_lt] at hlt
    show epoch.toNat = _
    omega
  · rename_i hlt
    rw [UInt64.lt_iff_toNat_lt] at hlt
    show e.tickedEpoch.toNat = _
    omega

/-- a step at one entity: what it ticks and what the caller then owes make up for the epoch -/
theorem Balanced.move (h : Balanced trace w) {c : Fin n} {k : Nat} {e e' : Entity} {g : Fleet}
    {phase : Phase} (he : w.fleet.entities[k]? = some e)
    (hentities : g.entities = (w.fleet.put k e').entities)
    (hlength : e'.generators.length = e.generators.length)
    (hother : ∀ i j, k ≠ i → event.isTick i j = false ∧ phase.owed i j = (w.phase c).owed i j)
    (hself : ∀ j < e.generators.length, e.tickedEpoch.toNat + (if event.isTick k j then 1 else 0)
      + phase.owed k j = e'.tickedEpoch.toNat + (w.phase c).owed k j) :
    Balanced (trace ++ [event]) (w.move c g phase) := by
  intro i e₁ he₁ j hj
  have howed := w.owed_move c g phase i j
  have he₁' : (w.fleet.put k e').entities[i]? = some e₁ := by rwa [← hentities]
  rw [ticks_append]
  by_cases hi : k = i
  · subst hi
    rw [entities_put_self he] at he₁'
    obtain rfl := Option.some.inj he₁'
    rw [hlength] at hj
    have hbalance := h k e he j hj
    have hstep := hself j hj
    omega
  · rw [entities_put_ne hi] at he₁'
    have hbalance := h i e₁ he₁' j hj
    obtain ⟨htick, hphase⟩ := hother i j hi
    rw [htick, if_neg Bool.false_ne_true]
    omega

theorem Balanced.step (h : Balanced trace w) (hstep : Step w event w') :
    Balanced (trace ++ [event]) w' := by
  cases hstep with
  | @take c hphase p =>
    intro i e he j hj
    have hbalance := h i e he j hj
    have htick : Event.isTick i j (.took c (w.fleet.made + 1)) = false := rfl
    rw [ticks_append, htick, if_neg Bool.false_ne_true, Nat.add_zero]
    split
    · have howed := w.owed_move c w.fleet.count .idle i j
      rw [hphase] at howed
      rwa [Nat.add_right_cancel howed]
    · have howed := w.owed_move c w.fleet.count
        (.numbered (w.fleet.made + 1) (w.fleet.place (w.fleet.made + 1 - 1)) p) i j
      rw [hphase, Phase.owed_idle, Phase.owed_numbered] at howed
      rwa [Nat.add_right_cancel howed]
  | @raise c number spot p e hphase he =>
    refine h.move he rfl rfl ?_ ?_
    · intro i j hi
      rw [hphase, Phase.owed_ticking, if_neg hi]
      exact ⟨rfl, rfl⟩
    · intro j hj
      rw [hphase, Phase.owed_ticking, if_pos rfl, Phase.owed_numbered, count_owed e spot.epoch hj,
        toNat_raise]
      rfl
  | @tick c number spot p slot owed e hphase he =>
    refine h.move he rfl (List.length_modify _ _ _) ?_ ?_
    · intro i j hi
      rw [hphase, Phase.owed_ticking, Phase.owed_ticking, if_neg hi, if_neg hi]
      exact ⟨by simp [Event.isTick, hi], rfl⟩
    · intro j hj
      rw [hphase, Phase.owed_ticking, Phase.owed_ticking, if_pos rfl, if_pos rfl, List.count_cons]
      show e.tickedEpoch.toNat + (if (spot.entity == spot.entity && slot == j) = true then 1 else 0)
        + _ = e.tickedEpoch.toNat + _
      rw [beq_self_eq_true, Bool.true_and]
      omega
  | @emit c number spot p e g hphase he hg =>
    refine @Balanced.move n w trace _ h c spot.entity e _ _ .idle he rfl List.length_set ?_ ?_
    · intro i j hi
      rw [hphase, Phase.owed_ticking, Phase.owed_idle, if_neg hi]
      exact ⟨rfl, rfl⟩
    · intro j hj
      rw [hphase, Phase.owed_ticking, Phase.owed_idle, if_pos rfl, List.count_nil]
      rfl

theorem entities_put_le {k i : Nat} {e e' x : Entity} (he : f.entities[k]? = some e)
    (hle : e.tickedEpoch.toNat ≤ e'.tickedEpoch.toNat) (hx : f.entities[i]? = some x) :
    ∃ x', (f.put k e').entities[i]? = some x' ∧ x.tickedEpoch.toNat ≤ x'.tickedEpoch.toNat := by
  by_cases hi : k = i
  · subst hi
    rw [he] at hx
    obtain rfl := Option.some.inj hx
    exact ⟨e', entities_put_self he e', hle⟩
  · exact ⟨x, (entities_put_ne hi f e').trans hx, Nat.le_refl _⟩

/-- no step sets an entity back -/
theorem Step.entity_le (hstep : Step w event w') {i : Nat} {x : Entity}
    (hx : w.fleet.entities[i]? = some x) :
    ∃ x', w'.fleet.entities[i]? = some x' ∧ x.tickedEpoch.toNat ≤ x'.tickedEpoch.toNat := by
  cases hstep with
  | take hphase p => exact ⟨x, hx, Nat.le_refl _⟩
  | raise hphase he =>
    refine entities_put_le he ?_ hx
    rw [toNat_raise]
    exact Nat.le_add_right _ _
  | tick hphase he => exact entities_put_le he (Nat.le_refl _) hx
  | @emit c number spot p e g hphase he hg =>
    have hle : e.tickedEpoch.toNat ≤ (e.after spot.slot g (w.stream c)).tickedEpoch.toNat :=
      Nat.le_refl _
    exact entities_put_le he hle hx

/-- a step leaves the other callers where they are -/
theorem Step.phase_ne (hstep : Step w event w') {c : Fin n} (hc : c ≠ event.caller) :
    w'.phase c = w.phase c := by
  cases hstep with
  | take hphase p => exact w.phase_move_ne hc _ _
  | raise hphase he => exact w.phase_move_ne hc _ _
  | tick hphase he => exact w.phase_move_ne hc _ _
  | emit hphase he hg => exact w.phase_move_ne hc w.fleet _

/-- a number that was handed out before keeps its caller or its epoch -/
theorem Reached.keep (h : Reached f trace w) (hstep : Step w event w')
    (hphase : ∀ number spot p, w.phase event.caller = .numbered number spot p →
      ∃ e : Entity, w'.fleet.entities[spot.entity]? = some e ∧
        spot.epoch.toNat ≤ e.tickedEpoch.toNat)
    {i : Nat} (hi : i < (takes trace).length) (htotal : i < f.total.toNat) :
    (∃ c number p, w'.phase c = .numbered number (f.place i.toUInt64) p) ∨
      ∃ e : Entity, w'.fleet.entities[(f.place i.toUInt64).entity]? = some e ∧
        (f.place i.toUInt64).epoch.toNat ≤ e.tickedEpoch.toNat := by
  rcases h i hi htotal with ⟨c, number, p, hc⟩ | ⟨e, he, hle⟩
  · by_cases hcaller : c = event.caller
    · subst hcaller
      exact Or.inr (hphase number _ p hc)
    · exact Or.inl ⟨c, number, p, (hstep.phase_ne hcaller).trans hc⟩
  · obtain ⟨e', he', hle'⟩ := hstep.entity_le he
    exact Or.inr ⟨e', he', Nat.le_trans hle hle'⟩

theorem Reached.step (h : Reached f trace w) (ha : Alike f w.fleet) (hcounted : Counted trace w)
    (hstep : Step w event w') : Reached f (trace ++ [event]) w' := by
  intro i hi htotal
  have hstep' := hstep
  cases hstep with
  | @take c hphase p =>
    rw [takes_append_took, List.length_append, List.length_singleton] at hi
    rcases Nat.lt_or_ge i (takes trace).length with hlt | hge
    · refine h.keep hstep' ?_ hlt htotal
      intro number spot p' hnumbered
      exact absurd (hphase.symm.trans hnumbered) (by simp)
    -- the number that is handed out by this step
    · have hmade : w.fleet.made.toNat = i := by
        rw [hcounted.made_eq]
        omega
      have hword : i.toUInt64 = w.fleet.made := by
        rw [← hmade]
        exact UInt64.ofNat_toNat
      have hpast : ¬ w.fleet.total < w.fleet.made + 1 := by
        have hsize := f.total.toNat_lt_size
        rw [ha.total, UInt64.lt_iff_toNat_lt, Word.toNat_succ (by omega)]
        omega
      refine Or.inl ⟨c, w.fleet.made + 1, p, ?_⟩
      rw [w.phase_move, if_neg hpast, UInt64.add_sub_cancel, ha.place, hword]
  | @raise c number spot p e hphase he =>
    rw [takes_append_of_none rfl] at hi
    refine h.keep hstep' ?_ hi htotal
    intro number' spot' p' hnumbered
    obtain ⟨rfl, rfl, rfl⟩ := Phase.numbered.inj (hphase.symm.trans hnumbered)
    refine ⟨e.raise spot.epoch, entities_put_self he _, ?_⟩
    rw [toNat_raise, Entity.behind]
    omega
  | @tick c number spot p slot owed e hphase he =>
    rw [takes_append_of_none rfl] at hi
    refine h.keep hstep' ?_ hi htotal
    intro number' spot' p' hnumbered
    exact absurd (hphase.symm.trans hnumbered) (by simp)
  | @emit c number spot p e g hphase he hg =>
    rw [takes_append_of_none rfl] at hi
    refine h.keep hstep' ?_ hi htotal
    intro number' spot' p' hnumbered
    exact absurd (hphase.symm.trans hnumbered) (by simp)

/-- an entity that is put in the place of another one, and is not ahead either -/
theorem Bounded.put (h : Bounded f w) {k : Nat} {e e' : Entity} {g : Fleet}
    (he : w.fleet.entities[k]? = some e) (hg : g.entities = (w.fleet.put k e').entities)
    (hlt : e'.tickedEpoch.toNat < f.epochs.toNat) (c : Fin n) (phase : Phase) :
    Bounded f (w.move c g phase) := by
  intro i x hx
  have hx' : (w.fleet.put k e').entities[i]? = some x := by rwa [← hg]
  by_cases hi : k = i
  · subst hi
    rw [entities_put_self he] at hx'
    obtain rfl := Option.some.inj hx'
    exact hlt
  · rw [entities_put_ne hi] at hx'
    exact h i x hx'

theorem Bounded.step {entities : List Entity} {window : Window} {interval : Duration}
    (h : Bounded f w) (hb : Built entities window interval f) (hheld : Held f trace w)
    (hstep : Step w event w') : Bounded f w' := by
  cases hstep with
  | take hphase p => exact h
  | @raise c number spot p e hphase he =>
    obtain ⟨-, hpos, htotal, hspot⟩ := hheld c number spot (by rw [hphase]; rfl)
    have hlt : number - 1 < f.total := by
      rw [UInt64.lt_iff_toNat_lt, Word.toNat_pred hpos]
      omega
    have hepoch := UInt64.lt_iff_toNat_lt.1 (hb.place_lt hlt).2.2
    rw [← hspot] at hepoch
    refine h.put he rfl ?_ c _
    have hbound := h _ e he
    rw [toNat_raise, Entity.behind]
    omega
  | @tick c number spot p slot owed e hphase he =>
    have hlt : (e.tickSlot w.fleet.interval slot).tickedEpoch.toNat < f.epochs.toNat := h _ e he
    exact h.put he rfl hlt c _
  | @emit c number spot p e g hphase he hg =>
    exact @Bounded.put n f w h spot.entity e (e.after spot.slot g (w.stream c)) _ he rfl (h _ e he)
      c .idle

theorem Drawn.step (h : Drawn f trace) (ha : Alike f w.fleet) (hheld : Held f trace w)
    (hstep : Step w event w') : Drawn f (trace ++ [event]) := by
  intro c number spot p row hmem
  rcases List.mem_append.1 hmem with hold | hnew
  · obtain ⟨hholds, hrest⟩ := h c number spot p row hold
    exact ⟨hholds.append event, hrest⟩
  · rw [List.mem_singleton] at hnew
    subst hnew
    cases hstep with
    | @emit _ _ _ _ e g hphase he hg =>
      have hholds := hheld c number spot (by rw [hphase]; rfl)
      obtain ⟨e₀, he₀, hlayout⟩ := ha.symm.entity he
      obtain ⟨g₀, hg₀, hlabel⟩ := Entity.generator_of_layout hlayout hg
      refine ⟨hholds.append _, e₀, g₀, he₀, hg₀, ?_⟩
      rw [← ha.epochTime]
      exact adds_rowOf hlayout.symm hlabel.symm _ p _

end

end Telemetry.Fleet
