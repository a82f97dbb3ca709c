import Telemetry.Proofs.Fleet.Operation
import Telemetry.Proofs.Generator.Uptime

/-!
# The uptimes in a fleet

The stores of an entity tick only when the entity makes a row, and then for all epochs since the
last one.  Whatever rows were asked for before, the count of a store is the count that it was built
with and one interval for each epoch of its entity.

* `Entity.Ran`            the invariant of one entity, and `ran_self`, `Ran.advanceTo`, `Ran.after`;
* `Clocked`               the invariant of a fleet after some calls of `next`;
* `Clocked.next_run`      the next row, and the entity behind it;
* `Clocked.performAll`    any operations keep the invariant;
* `uptimes_accumulate`    the uptimes in the rows of a fleet.
-/

namespace Telemetry

open Telemetry.Random

/-! ## entities -/

namespace Entity

/-- each store of `e` counts what the same store of `e₀` counts, and the epochs of `e` on top -/
def Ran (interval : Duration) (e₀ e : Entity) : Prop :=
  e.generators.map Generator.clock?
    = (e₀.generators.map Generator.clock?).map
        (Option.map (· + (e.tickedEpoch.toNat * interval.toNanos).toUInt64))

variable {interval : Duration} {e₀ e : Entity}

theorem ran_self (h : e.tickedEpoch = 0) : Ran interval e e := by
  rw [Ran, h, UInt64.toNat_zero, Nat.zero_mul, Generator.map_add_zero, List.map_id]

theorem tickedEpoch_advanceTo {epoch : UInt64} (h : e.tickedEpoch.toNat ≤ epoch.toNat) :
    (e.advanceTo epoch interval).tickedEpoch = epoch := by
  unfold advanceTo
  split
  · rfl
  · rename_i hlt
    rw [UInt64.lt_iff_toNat_lt] at hlt
    exact UInt64.toNat_inj.1 (by omega)

theorem Ran.advanceTo (h : Ran interval e₀ e) (epoch : UInt64) :
    Ran interval e₀ (e.advanceTo epoch interval) := by
  unfold Entity.advanceTo
  split
  · rename_i hlt
    rw [UInt64.lt_iff_toNat_lt] at hlt
    show (tickTimes interval (e.behind epoch) e.generators).map Generator.clock?
      = (e₀.generators.map Generator.clock?).map
          (Option.map (· + (epoch.toNat * interval.toNanos).toUInt64))
    -- the ticks that the entity is behind make up the difference
    have hsplit : epoch.toNat * interval.toNanos
        = e.tickedEpoch.toNat * interval.toNanos + e.behind epoch * interval.toNanos := by
      rw [← Nat.add_mul, behind, Nat.add_sub_cancel' (Nat.le_of_lt hlt)]
    rw [Generator.clocks_tickTimes, h, List.map_map, Generator.map_add_add, hsplit]
  · exact h

theorem Ran.after (h : Ran interval e₀ e) {slot : Nat} {g : Generator}
    (hg : e.generators[slot]? = some g) (s : Stream) : Ran interval e₀ (e.after slot g s) := by
  have hslot : (e.generators.map Generator.clock?)[slot]? = some g.clock? := by
    rw [List.getElem?_map, hg, Option.map_some]
  obtain ⟨hlt, heq⟩ := List.getElem?_eq_some_iff.1 hslot
  show (e.generators.set slot (g.advance.run s).1.2).map Generator.clock? = _
  rw [List.map_set, Generator.clock?_advance, ← heq, List.set_getElem_self]
  exact h

theorem Ran.clock?_eq (h : Ran interval e₀ e) {slot : Nat} {g₀ g : Generator}
    (hg₀ : e₀.generators[slot]? = some g₀) (hg : e.generators[slot]? = some g) :
    g.clock? = g₀.clock?.map (· + (e.tickedEpoch.toNat * interval.toNanos).toUInt64) := by
  have hslot := congrArg (·[slot]?) h
  simp only [List.getElem?_map, hg, hg₀, Option.map_some] at hslot
  exact Option.some.inj hslot

end Entity

/-! ## fleets -/

namespace Fleet

/-- a fleet after `j` calls of `next`: no entity is ahead of the rows, and all stores have run -/
structure Clocked (entities : List Entity) (f : Fleet) (j : Nat) (g : Fleet) : Prop where
  come : Come entities f j g
  ran : ∀ (i : Nat) (e₀ e : Entity), entities[i]? = some e₀ → g.entities[i]? = some e →
    Entity.Ran f.interval e₀ e ∧ e.tickedEpoch.toNat ≤ j / (entities.length * f.slots.toNat) ∧
      e.tickedEpoch.toNat < f.epochs.toNat

section
variable {entities : List Entity} {window : Window} {interval : Duration} {f g h : Fleet} {j : Nat}

theorem Built.clocked (hb : Built entities window interval f)
    (hfresh : ∀ e ∈ entities, e.tickedEpoch = 0) : Clocked entities f 0 f := by
  refine ⟨hb.come, fun i e₀ e he₀ he => ?_⟩
  rw [hb.getElem?_entities] at he
  obtain rfl : e₀ = e := Option.some.inj (he₀.symm.trans he)
  have hzero := hfresh e₀ (List.mem_of_getElem? he₀)
  rw [hzero]
  exact ⟨Entity.ran_self hzero, Nat.zero_le _, hb.epochs_pos⟩

theorem Clocked.frame (hclocked : Clocked entities f j g) {j' : Nat} (hle : j ≤ j')
    (hcome : Come entities f j' h) (hentities : h.entities = g.entities) :
    Clocked entities f j' h := by
  refine ⟨hcome, fun i e₀ e he₀ he => ?_⟩
  obtain ⟨hran, hepoch, hlt⟩ := hclocked.ran i e₀ e he₀ (hentities ▸ he)
  exact ⟨hran, hepoch.trans (Nat.div_le_div_right hle), hlt⟩

/-- **The next row**: its entity has been brought up to the epoch of the row, and its stores count
the time of the epoch. -/
theorem Clocked.next_run (hb : Built entities window interval f) (hclocked : Clocked entities f j g)
    (hj : j < f.total.toNat) {e₀ : Entity}
    (he₀ : entities[j / f.slots.toNat % entities.length]? = some e₀) (p : Point) (s : Stream) :
    ∃ e gen k n, Entity.Ran f.interval e₀ e ∧ e.tickedEpoch = k ∧
      k.toNat = j / (entities.length * f.slots.toNat) ∧ k < f.epochs ∧
      e.generators[j % f.slots.toNat]? = some gen ∧
      (g.next p).run s
        = ((g.made + 1, rowOf e gen (f.epochTime k) p s,
            g.count.store (j / f.slots.toNat % entities.length)
              (e.after (j % f.slots.toNat) gen s) n),
          (gen.advance.run s).2) := by
  obtain ⟨e, gen, k, n, he, hgen, hk, hlast, hrun⟩ := hclocked.come.next_row hb hj p s
  obtain ⟨hran, hle, -⟩ := hclocked.ran _ e₀ e he₀ he
  refine ⟨e.advanceTo k f.interval, gen, k, n, hran.advanceTo k,
    Entity.tickedEpoch_advanceTo (by rwa [hk]), hk, hlast, hgen, ?_⟩
  rw [rowOf_advanceTo]
  exact hrun

theorem entity_of_store {i i' n : Nat} {e e' : Entity}
    (h : (g.store i e n).entities[i']? = some e') :
    (i' = i ∧ e' = e) ∨ g.entities[i']? = some e' := by
  have hset : (g.entities.setIfInBounds i e)[i']? = some e' := h
  by_cases hi : i = i'
  · subst hi
    rw [Array.getElem?_setIfInBounds_self] at hset
    split at hset
    · exact .inl ⟨rfl, (Option.some.inj hset).symm⟩
    · exact nomatch hset
  · rw [Array.getElem?_setIfInBounds_ne hi] at hset
    exact .inr hset

theorem Clocked.next (hb : Built entities window interval f) (hclocked : Clocked entities f j g)
    (hj : j + 1 < UInt64.size) (p : Point) (s : Stream) :
    Clocked entities f (j + 1) ((g.next p).run s).1.2.2 := by
  have hcome := hclocked.come.perform hb (.next p) hj s
  rw [perform_next] at hcome
  rcases Nat.lt_or_ge j f.total.toNat with hlt | hle
  · obtain ⟨e₀, gen₀, he₀, -⟩ := hb.exists_row j
    obtain ⟨e, gen, k, n, hran, hticked, hk, hepochs, hgen, hrun⟩ :=
      hclocked.next_run hb hlt he₀ p s
    rw [hrun] at hcome ⊢
    refine ⟨hcome, fun i e₁ e' he₁ he' => ?_⟩
    have hlater : j / (entities.length * f.slots.toNat)
        ≤ (j + 1) / (entities.length * f.slots.toNat) := Nat.div_le_div_right (Nat.le_succ j)
    -- the entity of the row has come to the epoch of the row, the others stand where they stood
    rcases entity_of_store he' with ⟨rfl, rfl⟩ | hold
    · obtain rfl : e₀ = e₁ := Option.some.inj (he₀.symm.trans he₁)
      refine ⟨hran.after hgen s, ?_, ?_⟩
      · show e.tickedEpoch.toNat ≤ _
        rw [hticked, hk]
        exact hlater
      · show e.tickedEpoch.toNat < _
        rw [hticked]
        exact UInt64.lt_iff_toNat_lt.1 hepochs
    · obtain ⟨hran', hle', hlt'⟩ := hclocked.ran i e₁ e' he₁ hold
      exact ⟨hran', hle'.trans hlater, hlt'⟩
  · obtain ⟨hrun, -, -⟩ := hclocked.come.next_past hle hj p s
    rw [hrun] at hcome ⊢
    exact hclocked.frame (Nat.le_succ j) hcome rfl

/-- **One operation** keeps the invariant. -/
theorem Clocked.perform (hb : Built entities window interval f) (hclocked : Clocked entities f j g)
    (op : Op) (hj : j + op.nexts < UInt64.size) (s : Stream) :
    Clocked entities f (j + op.nexts) ((g.perform op).run s).1 := by
  have hcome := hclocked.come.perform hb op hj s
  cases op with
  | next p => exact hclocked.next hb hj p s
  | query sink =>
    obtain ⟨n, hn⟩ := nextQuery_run g sink s
    refine hclocked.frame (Nat.le_refl j) hcome ?_
    show ((g.nextQuery sink).run s).1.2.2.entities = g.entities
    rw [hn]
  | written count => exact hclocked.frame (Nat.le_refl j) hcome rfl
  | install templates times =>
    refine hclocked.frame (Nat.le_refl j) hcome ?_
    cases hinstall : g.install templates times with
    | error why =>
      rw [Fleet.perform, hinstall]
      rfl
    | ok g' =>
      obtain ⟨ts, rfl⟩ := install_eq_ok hinstall
      rw [Fleet.perform, hinstall]
      rfl

theorem Clocked.performAll (hb : Built entities window interval f)
    (hclocked : Clocked entities f j g) (ops : List Op) (hj : j + nexts ops < UInt64.size)
    (s : Stream) : Clocked entities f (j + nexts ops) ((g.performAll ops).run s).1 := by
  induction ops generalizing j g s with
  | nil => exact hclocked
  | cons op ops ih =>
    rw [nexts_cons] at hj ⊢
    have hstep := hclocked.perform hb op (by omega) s
    have hrest := ih hstep (by omega) ((g.perform op).run s).2
    rw [Nat.add_assoc] at hrest
    exact hrest

/-! ## counts and rows -/

theorem Built.count_lt (hb : Built entities window interval f) {k : Nat} (hk : k < f.epochs.toNat)
    {count : UInt64} (hcount : count.toNat < 604800000000000) :
    count.toNat + k * interval.toNanos < UInt64.size := by
  -- the window spans less than half a word, and a week is far below the other half
  have hstop := hb.epoch_lt_stop hk
  have hspan := hb.span_lt
  have hcast : ((k * interval.toNanos : Nat) : Int) = k * interval.toNanos := Int.natCast_mul _ _
  show _ < 18446744073709551616
  omega

theorem Built.toNat_count (hb : Built entities window interval f) {k : Nat}
    (hk : k < f.epochs.toNat) {count : UInt64} (hcount : count.toNat < 604800000000000) :
    (count + (k * interval.toNanos).toUInt64).toNat = count.toNat + k * interval.toNanos := by
  have hlt := hb.count_lt hk hcount
  rw [UInt64.toNat_add, Word.toNat_toUInt64_of_lt (by omega)]
  exact Nat.mod_eq_of_lt hlt

theorem Clocked.uptime_row (hb : Built entities window interval f)
    (hclocked : Clocked entities f j g) {k i m : Nat} (hk : k < f.epochs.toNat)
    (hj : j = rowIndex entities.length f.slots.toNat k i m) {e₀ : Entity} {gen₀ : Generator}
    {count : UInt64} (he₀ : entities[i]? = some e₀) (hgen₀ : e₀.generators[m]? = some gen₀)
    (hnew : gen₀.Unticked count) (p : Point) (s : Stream) :
    ∃ number row h s' uptime rest, (g.next p).run s = ((number, row, h), s') ∧
      number.toNat = j + 1 ∧
      row.timestamp.toInt = window.start.toInt + k * interval.toNanos ∧
      row.fields = p.fields ++ ⟨"uptime_in_seconds", .unsigned uptime⟩ :: rest ∧
      uptime.toNat = (count.toNat + k * interval.toNanos) / 1000000000 := by
  obtain ⟨hi, hm⟩ := hb.slot_lt he₀ hgen₀
  have hlt := hb.rowIndex_lt_total hk hi hm
  rw [← hj] at hlt
  rw [← rowIndex_div_mod (k := k) hi hm, ← hj] at he₀
  rw [← rowIndex_mod (E := entities.length) (k := k) (e := i) hm, ← hj] at hgen₀
  obtain ⟨e, gen, epoch, n, hran, hticked, hepoch, hlast, hgen, hrun⟩ :=
    hclocked.next_run hb hlt he₀ p s
  rw [hj, rowIndex_div_rows hi hm] at hepoch
  have hcount : gen.clock? = some (count + (k * interval.toNanos).toUInt64) := by
    rw [hran.clock?_eq hgen₀ hgen, hnew.clock?_eq, hticked, hepoch, hb.interval_eq]
    rfl
  obtain ⟨rest, hfields⟩ := Generator.fields_of_clock hcount s
  have hword := hb.toNat_count hk hnew.toNat_lt
  refine ⟨_, _, _, _, _, rest, hrun, ?_, ?_, congrArg (p.fields ++ ·) hfields, ?_⟩
  · have htotal := f.total.toNat_lt_size
    rw [Word.toNat_succ (by rw [hclocked.come.made_eq]; omega), hclocked.come.made_eq]
  · show (f.epochTime epoch).toInt = _
    rw [hb.toInt_epochTime hlast, hepoch]
  · rw [UInt64.toNat_div, hword]
    rfl

theorem Clocked.count_eq (hb : Built entities window interval f)
    (hclocked : Clocked entities f j g) {i m : Nat} {e₀ : Entity} {gen₀ : Generator}
    {count : UInt64} (he₀ : entities[i]? = some e₀) (hgen₀ : e₀.generators[m]? = some gen₀)
    (hnew : gen₀.Unticked count) :
    ∃ e gen now, g.entities[i]? = some e ∧ e.generators[m]? = some gen ∧ gen.clock? = some now ∧
      e.tickedEpoch < f.epochs ∧
      now.toNat = count.toNat + e.tickedEpoch.toNat * interval.toNanos := by
  obtain ⟨e, he, hlayout⟩ := hclocked.come.alike.entity ((hb.getElem?_entities i).trans he₀)
  obtain ⟨gen, hgen, -⟩ := Entity.generator_of_layout hlayout hgen₀
  obtain ⟨hran, -, hlast⟩ := hclocked.ran i e₀ e he₀ he
  refine ⟨e, gen, _, he, hgen, ?_, UInt64.lt_iff_toNat_lt.2 hlast,
    hb.toNat_count hlast hnew.toNat_lt⟩
  rw [hran.clock?_eq hgen₀ hgen, hnew.clock?_eq, hb.interval_eq]
  rfl

/-- **Uptimes.**  A store of an accepted fleet was made with a count of nanoseconds and has not
ticked since.  Whatever operations were asked for before, in epoch `k` its row reports the whole
seconds in that count and `k` intervals.  No state that operations lead to has lost or wrapped a
count, and no number of rows moves one. -/
theorem uptimes_accumulate (hacc : ofEntities entities window interval = .ok f)
    (hc : Countable entities) (hfresh : ∀ e ∈ entities, e.tickedEpoch = 0) {i m : Nat} {e₀ : Entity}
    {gen₀ : Generator} {count : UInt64} (he₀ : entities[i]? = some e₀)
    (hgen₀ : e₀.generators[m]? = some gen₀) (hnew : gen₀.Unticked count) :
    (∀ k < f.epochs.toNat, count.toNat + k * interval.toNanos < UInt64.size ∧
      ∀ (ops : List Op) (s : Stream),
        nexts ops = rowIndex entities.length f.slots.toNat k i m → ∀ p : Point,
          ∃ g s', (f.performAll ops).run s = (g, s') ∧ ∃ number row h s'' uptime rest,
            (g.next p).run s' = ((number, row, h), s'') ∧ number.toNat = nexts ops + 1 ∧
            row.timestamp.toInt = window.start.toInt + k * interval.toNanos ∧
            row.fields = p.fields ++ ⟨"uptime_in_seconds", .unsigned uptime⟩ :: rest ∧
            uptime.toNat = (count.toNat + k * interval.toNanos) / 1000000000) ∧
    (∀ (ops : List Op) (s : Stream), nexts ops < UInt64.size →
      ∃ e gen now, ((f.performAll ops).run s).1.entities[i]? = some e ∧
        e.generators[m]? = some gen ∧ gen.clock? = some now ∧ e.tickedEpoch < f.epochs ∧
        now.toNat = count.toNat + e.tickedEpoch.toNat * interval.toNanos) ∧
    ∀ (gen : Generator) (rows : List (Point × Stream)),
      (gen.after (rows.map fun r => .row r.1 r.2)).clock? = gen.clock? := by
  have hb := built_of_ofEntities hacc hc
  have hclocked : ∀ (ops : List Op) (s : Stream), nexts ops < UInt64.size →
      Clocked entities f (nexts ops) ((f.performAll ops).run s).1 := by
    intro ops s hops
    have hrun := (hb.clocked hfresh).performAll hb ops (by rwa [Nat.zero_add]) s
    rwa [Nat.zero_add] at hrun
  refine ⟨fun k hk => ⟨hb.count_lt hk hnew.toNat_lt, fun ops s hops p => ?_⟩,
    fun ops s hops => (hclocked ops s hops).count_eq hb he₀ hgen₀ hnew, Generator.clock?_rows⟩
  obtain ⟨hi, hm⟩ := hb.slot_lt he₀ hgen₀
  have hlt := Nat.lt_trans (hb.rowIndex_lt_total hk hi hm) f.total.toNat_lt_size
  rw [← hops] at hlt
  exact ⟨_, _, rfl, (hclocked ops s hlt).uptime_row hb hk hops he₀ hgen₀ hnew p _⟩

end

/-- a host with a processor and a store that was made after 83700 seconds -/
def storeHost : Entity :=
  ⟨0, [⟨"hostname", "host_0"⟩], [.cpu, ((Generator.new .redis 0 {}).run ⟨0⟩).1], 0⟩

/-- three intervals of half a second later, the eighth row reports 83701 seconds -/
theorem uptimes_accumulate_half_seconds :
    ∃ f, ofEntities [storeHost] ⟨0, 3000000000⟩ ⟨0, 500000000, by decide⟩ = .ok f ∧
      ∃ g s', (f.performAll (List.replicate 7 (.next {}))).run ⟨1⟩ = (g, s') ∧
        ∃ number row h s'' uptime rest, (g.next {}).run s' = ((number, row, h), s'') ∧
          number.toNat = 8 ∧ row.timestamp.toInt = 1500000000 ∧
          row.fields = ⟨"uptime_in_seconds", .unsigned uptime⟩ :: rest ∧ uptime.toNat = 83701 := by
  have hacc : ∃ f, ofEntities [storeHost] ⟨0, 3000000000⟩ ⟨0, 500000000, by decide⟩ = .ok f ∧
      f.slots = 2 ∧ 3 < f.epochs.toNat := ⟨_, rfl, rfl, by decide⟩
  obtain ⟨f, hacc, hslots, hepochs⟩ := hacc
  have hc : Countable [storeHost] := by
    intro e he
    obtain rfl := List.mem_singleton.1 he
    decide
  have hfresh : ∀ e ∈ [storeHost], e.tickedEpoch = 0 := by
    intro e he
    obtain rfl := List.mem_singleton.1 he
    rfl
  have hnew : (((Generator.new .redis 0 {}).run ⟨0⟩).1).Unticked 83700000000000 :=
    ⟨0, {}, ⟨0⟩, [], by decide, rfl⟩
  have huptimes := uptimes_accumulate (i := 0) (m := 1) hacc hc hfresh rfl rfl hnew
  obtain ⟨-, hrow⟩ := huptimes.1 3 hepochs
  have hops : nexts (List.replicate 7 (.next {}))
      = rowIndex [storeHost].length f.slots.toNat 3 0 1 := by
    rw [hslots]
    rfl
  obtain ⟨g, s', hrun, number, row, h, s'', uptime, rest, hnext, hnumber, htime, hfields,
    huptime⟩ := hrow (List.replicate 7 (.next {})) ⟨1⟩ hops {}
  exact ⟨f, hacc, g, s', hrun, number, row, h, s'', uptime, rest, hnext, hnumber, htime, hfields,
    huptime⟩

end Fleet

end Telemetry
