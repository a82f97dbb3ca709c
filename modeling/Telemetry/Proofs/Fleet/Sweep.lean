import Telemetry.Proofs.Fleet.Operation

/-!
# The rows of a fleet in three loops

What a fleet reports, written without row numbers: epoch by epoch, entity by entity, measurement by
measurement, with one tick of every generator of an entity before its first row of a later epoch.
A fleet that is drained makes just these rows.

* `sweepSlots`, `sweepEntities`, `sweepEpochs`  the loops, each row with its place;
* `drain f n`        the next `n` rows with their numbers;
* `stage f es n v`   a fleet whose entities, number and values are replaced;
* `Drains`           a run of `drain` from one state to another, its rows with their places;
* `Built.drains_slots`, `Built.drains_entities`, `Built.drains_epochs`  one lemma for each loop.
-/

namespace Telemetry.Fleet

open Telemetry.Random

/-! ## the loops -/

/-- the time of an epoch, in the integers -/
def timeOf (start : Int64) (interval : Duration) (k : Nat) : Int64 :=
  Int64.ofInt (start.toInt + k * interval.toNanos)

/-- a row of each generator of entity `i`, from slot `m` on -/
def sweepSlots (k i : Nat) (tags : List Tag) (time : Int64) :
    Nat → List Generator → Draw (List (Place × Point) × List Generator)
  | _, [] => return ([], [])
  | m, g :: gs => do
    let (_, row, g') ← g.emit { tags := tags, timestamp := time }
    let (rows, gs') ← sweepSlots k i tags time (m + 1) gs
    return ((⟨i, m, k.toUInt64⟩, row) :: rows, g' :: gs')

/-- the generators of an entity when an epoch begins: each ticks once, but not in the first epoch -/
def begin (interval : Duration) (k : Nat) (e : Entity) : List Generator :=
  if 0 < k then e.generators.map (Generator.tick interval) else e.generators

/-- the rows of entity `i` in an epoch -/
def sweepEntity (start : Int64) (interval : Duration) (k i : Nat) (e : Entity) :
    Draw (List (Place × Point) × Entity) := do
  let (rows, gs) ← sweepSlots k i e.tags (timeOf start interval k) 0 (begin interval k e)
  return (rows, { e with generators := gs })

/-- the rows of each entity in an epoch, from entity `i` on -/
def sweepEntities (start : Int64) (interval : Duration) (k : Nat) :
    Nat → List Entity → Draw (List (Place × Point) × List Entity)
  | _, [] => return ([], [])
  | i, e :: es => do
    let (rows, e') ← sweepEntity start interval k i e
    let (more, es') ← sweepEntities start interval k (i + 1) es
    return (rows ++ more, e' :: es')

/-- the rows of some epochs, from epoch `k` on -/
def sweepEpochs (start : Int64) (interval : Duration) :
    Nat → Nat → List Entity → Draw (List (Place × Point) × List Entity)
  | _, 0, es => return ([], es)
  | k, n + 1, es => do
    let (rows, es') ← sweepEntities start interval k 0 es
    let (more, es'') ← sweepEpochs start interval (k + 1) n es'
    return (rows ++ more, es'')

theorem sweepSlots_cons (k i : Nat) (tags : List Tag) (time : Int64) (m : Nat) (g : Generator)
    (gs : List Generator) (s : Stream) :
    (sweepSlots k i tags time m (g :: gs)).run s
      = let out := (g.emit { tags := tags, timestamp := time }).run s
        let rest := (sweepSlots k i tags time (m + 1) gs).run (g.advance.run s).2
        (((⟨i, m, k.toUInt64⟩, out.1.2.1) :: rest.1.1, (g.advance.run s).1.2 :: rest.1.2),
          rest.2) := by
  rw [sweepSlots, StateT.run_bind, g.emit_run]
  rfl

theorem sweepEntity_run (start : Int64) (interval : Duration) (k i : Nat) (e : Entity)
    (s : Stream) :
    (sweepEntity start interval k i e).run s
      = let out := (sweepSlots k i e.tags (timeOf start interval k) 0 (begin interval k e)).run s
        ((out.1.1, { e with generators := out.1.2 }), out.2) := rfl

theorem sweepEntities_cons (start : Int64) (interval : Duration) (k i : Nat) (e : Entity)
    (es : List Entity) (s : Stream) :
    (sweepEntities start interval k i (e :: es)).run s
      = let out := (sweepEntity start interval k i e).run s
        let rest := (sweepEntities start interval k (i + 1) es).run out.2
        ((out.1.1 ++ rest.1.1, out.1.2 :: rest.1.2), rest.2) := rfl

theorem sweepEpochs_succ (start : Int64) (interval : Duration) (k n : Nat) (es : List Entity)
    (s : Stream) :
    (sweepEpochs start interval k (n + 1) es).run s
      = let out := (sweepEntities start interval k 0 es).run s
        let rest := (sweepEpochs start interval (k + 1) n out.1.2).run out.2
        ((out.1.1 ++ rest.1.1, rest.1.2), rest.2) := rfl

theorem length_sweepSlots (k i : Nat) (tags : List Tag) (time : Int64) (m : Nat)
    (gs : List Generator) (s : Stream) :
    ((sweepSlots k i tags time m gs).run s).1.2.length = gs.length := by
  induction gs generalizing m s with
  | nil => rfl
  | cons g gs ih =>
    rw [sweepSlots_cons]
    simp only
    rw [List.length_cons, ih, List.length_cons]

theorem length_begin (interval : Duration) (k : Nat) (e : Entity) :
    (begin interval k e).length = e.generators.length := by
  unfold begin
  split
  · rw [List.length_map]
  · rfl

/-- the loop over the entities keeps them, and the number of generators of each -/
theorem lengths_sweepEntities (start : Int64) (interval : Duration) (k i : Nat) (es : List Entity)
    (s : Stream) :
    ((sweepEntities start interval k i es).run s).1.2.map (·.generators.length)
      = es.map (·.generators.length) := by
  induction es generalizing i s with
  | nil => rfl
  | cons e es ih =>
    rw [sweepEntities_cons]
    simp only
    rw [List.map_cons, List.map_cons, ih, sweepEntity_run]
    simp only
    rw [length_sweepSlots, length_begin]

/-! ## draining -/

/-- the next rows with their numbers, each into an empty point -/
def drain (f : Fleet) : Nat → Draw (List (UInt64 × Point) × Fleet)
  | 0 => return ([], f)
  | n + 1 => do
    let (number, row, f') ← f.next {}
    let (rows, f'') ← f'.drain n
    return ((number, row) :: rows, f'')

theorem drain_succ (f : Fleet) (n : Nat) (s : Stream) :
    (f.drain (n + 1)).run s
      = let out := (f.next {}).run s
        let rest := (out.1.2.2.drain n).run out.2
        (((out.1.1, out.1.2.1) :: rest.1.1, rest.1.2), rest.2) := rfl

/-- a numbered row with its place -/
def spotted (f : Fleet) (r : UInt64 × Point) : Place × Point := (f.place (r.1 - 1), r.2)

/-- `n` rows lead from one state to another; each stands at its place in `f` -/
inductive Drains (f : Fleet) :
    Nat → Fleet → Stream → List (Place × Point) → Fleet → Stream → Prop where
  | nil (g : Fleet) (s : Stream) : Drains f 0 g s [] g s
  | cons {g h h' : Fleet} {s s' s'' : Stream} {rows : List (Place × Point)} {n : Nat}
      {number : UInt64} {row : Point} (hrun : (g.next {}).run s = ((number, row, h), s'))
      (hrest : Drains f n h s' rows h' s'') :
      Drains f (n + 1) g s (f.spotted (number, row) :: rows) h' s''

section
variable {f g h h' : Fleet} {s s' s'' : Stream} {rows rows' : List (Place × Point)} {n n' : Nat}

theorem Drains.append (h₁ : Drains f n g s rows h s') (h₂ : Drains f n' h s' rows' h' s'') :
    Drains f (n + n') g s (rows ++ rows') h' s'' := by
  induction h₁ with
  | nil g s => rwa [Nat.zero_add]
  | cons hrun _ ih =>
    rw [Nat.succ_add]
    exact .cons hrun (ih h₂)

theorem Drains.drain_run (hd : Drains f n g s rows h s') :
    ∃ numbered, (g.drain n).run s = ((numbered, h), s') ∧ numbered.map f.spotted = rows := by
  induction hd with
  | nil g s => exact ⟨[], rfl, rfl⟩
  | @cons g h h' s s' s'' rows n number row hrun _ ih =>
    obtain ⟨numbered, hdrain, rfl⟩ := ih
    refine ⟨(number, row) :: numbered, ?_, rfl⟩
    rw [drain_succ, hrun]
    simp only
    rw [hdrain]

end

/-! ## the states between two rows -/

theorem getElem?_length_append {α : Type} (pre : List α) (x : α) (post : List α) :
    (pre ++ x :: post)[pre.length]? = some x := by
  rw [List.getElem?_append_right (Nat.le_refl _), Nat.sub_self, List.getElem?_cons_zero]

theorem set_length_append {α : Type} (pre : List α) (x y : α) (post : List α) :
    (pre ++ x :: post).set pre.length y = pre ++ y :: post := by
  rw [List.set_append_right _ _ (Nat.le_refl _), Nat.sub_self, List.set_cons_zero]

/-- a fleet with other entities, another number and other values -/
def stage (f : Fleet) (es : List Entity) (n : Nat) (values : UInt64) : Fleet :=
  { f with entities := es.toArray, made := n.toUInt64, values := values }

/-- an entity that was brought up to an epoch -/
def mark (k : Nat) (e : Entity) : Entity := { e with tickedEpoch := k.toUInt64 }

section
variable {entities : List Entity} {window : Window} {interval : Duration} {f : Fleet}

theorem Built.stage_eq (hb : Built entities window interval f) : stage f entities 0 0 = f := by
  rw [stage, ← hb.entities_eq]
  have hmade := hb.made_eq
  have hvalues := hb.values_eq
  cases f
  simp only at hmade hvalues
  rw [hmade, hvalues]
  rfl

theorem store_stage (f : Fleet) (pre post : List Entity) (x y : Entity) (n : Nat) (values : UInt64)
    (w : Nat) : (stage f (pre ++ x :: post) n values).count.store pre.length y w
      = stage f (pre ++ y :: post) (n + 1) (values + w.toUInt64) := by
  have hmade : n.toUInt64 + 1 = (n + 1).toUInt64 := (UInt64.ofNat_add n 1).symm
  show Fleet.mk ((pre ++ x :: post).toArray.setIfInBounds pre.length y) _ _ _ _ _ _ _ _
    (n.toUInt64 + 1) (values + w.toUInt64) _ _ _ = _
  rw [List.setIfInBounds_toArray, set_length_append, hmade]
  rfl

theorem Built.toInt_epochTime_nat (hb : Built entities window interval f) {k : Nat}
    (hk : k < f.epochs.toNat) :
    (f.epochTime k.toUInt64).toInt = window.start.toInt + k * interval.toNanos := by
  have htoNat : k.toUInt64.toNat = k :=
    Word.toNat_toUInt64_of_lt (Nat.lt_trans hk f.epochs.toNat_lt_size)
  have htime := hb.toInt_epochTime (UInt64.lt_iff_toNat_lt.2 (htoNat.symm ▸ hk))
  rwa [htoNat] at htime

theorem Built.epochTime_eq (hb : Built entities window interval f) {k : Nat}
    (hk : k < f.epochs.toNat) : f.epochTime k.toUInt64 = timeOf window.start interval k := by
  rw [timeOf, ← hb.toInt_epochTime_nat hk, Int64.ofInt_toInt]

/-- the times of the loops are times of the window -/
theorem Built.toInt_timeOf (hb : Built entities window interval f) {k : Nat}
    (hk : k < f.epochs.toNat) :
    (timeOf window.start interval k).toInt = window.start.toInt + k * interval.toNanos := by
  rw [← hb.epochTime_eq hk, hb.toInt_epochTime_nat hk]

theorem advanceTo_mark (interval : Duration) {k : Nat} (hk : k < UInt64.size) (e : Entity) :
    (mark (k - 1) e).advanceTo k.toUInt64 interval
      = mark k { e with generators := begin interval k e } := by
  cases k with
  | zero => rfl
  | succ k =>
    have hlt : (mark k e).tickedEpoch < (k + 1).toUInt64 := by
      rw [UInt64.lt_iff_toNat_lt, Word.toNat_toUInt64_of_lt hk]
      show k.toUInt64.toNat < k + 1
      rw [Word.toNat_toUInt64_of_lt (by omega)]
      omega
    have hbehind : (mark k e).behind (k + 1).toUInt64 = 1 := by
      rw [Entity.behind, Word.toNat_toUInt64_of_lt hk]
      show k + 1 - k.toUInt64.toNat = 1
      rw [Word.toNat_toUInt64_of_lt (by omega)]
      omega
    show (mark k e).advanceTo (k + 1).toUInt64 interval = _
    rw [Entity.advanceTo, if_pos hlt, hbehind, Entity.tickTimes_succ, Entity.tickTimes_zero]
    rfl

theorem Built.place_stage (hb : Built entities window interval f) {es : List Entity}
    (hlen : es.length = entities.length) (n : Nat) (values : UInt64) (i : UInt64) :
    (stage f es n values).place i = f.place i := by
  have hsize : es.toArray.size = f.entities.size := by
    rw [hb.entities_eq, List.size_toArray, List.size_toArray, hlen]
  show Place.mk (i / f.slots % es.toArray.size.toUInt64).toNat _ _ = _
  rw [hsize]
  rfl

theorem not_past_stage {n : Nat} (hn : n < f.total.toNat) (es : List Entity) (values : UInt64) :
    ¬ (stage f es n values).total < (stage f es n values).made + 1 := by
  have htotal := f.total.toNat_lt_size
  have hmade : n.toUInt64.toNat = n := Word.toNat_toUInt64_of_lt (by omega)
  show ¬ f.total < n.toUInt64 + 1
  rw [UInt64.lt_iff_toNat_lt, Word.toNat_succ (by omega), hmade]
  omega

theorem entity_stage (f : Fleet) (pre post : List Entity) (e : Entity) (n : Nat) (values : UInt64) :
    (stage f (pre ++ e :: post) n values).entities[pre.length]? = some e := by
  show (pre ++ e :: post).toArray[pre.length]? = some e
  rw [List.getElem?_toArray, getElem?_length_append]

theorem after_mark (k : Nat) (e : Entity) (done gs : List Generator) (g : Generator) (s : Stream) :
    (mark k { e with generators := done ++ g :: gs }).after done.length g s
      = mark k { e with generators := done ++ (g.advance.run s).1.2 :: gs } := by
  show Entity.mk e.index e.tags ((done ++ g :: gs).set done.length (g.advance.run s).1.2)
    k.toUInt64 = _
  rw [set_length_append]
  rfl

/-- the row of one slot: the entity in its place has the generators of the epoch, or still has to be
brought up to it -/
theorem Built.next_stage (hb : Built entities window interval f) {pre post : List Entity}
    (hlen : pre.length + (post.length + 1) = entities.length) {k : Nat} (hk : k < f.epochs.toNat)
    {e₀ e : Entity} {done gs : List Generator} {g : Generator}
    (hM : done.length + (gs.length + 1) = f.slots.toNat)
    (hadv : e₀.advanceTo k.toUInt64 interval = mark k { e with generators := done ++ g :: gs })
    (values : UInt64) (s : Stream) :
    ∃ number row values',
      ((stage f (pre ++ e₀ :: post)
          (rowIndex entities.length f.slots.toNat k pre.length done.length) values).next {}).run s
        = ((number, row,
            stage f (pre ++ mark k { e with generators := done ++ (g.advance.run s).1.2 :: gs } :: post)
              (rowIndex entities.length f.slots.toNat k pre.length (done.length + 1)) values'),
          (g.advance.run s).2) ∧
      f.spotted (number, row) = (⟨pre.length, done.length, k.toUInt64⟩,
        ((g.emit { tags := e.tags, timestamp := timeOf window.start interval k }).run s).1.2.1) := by
  have hi : pre.length < entities.length := by omega
  have hm : done.length < f.slots.toNat := by omega
  have hes : (pre ++ e₀ :: post).length = entities.length := by
    rw [List.length_append, List.length_cons, hlen]
  have hn := hb.rowIndex_lt_total hk hi hm
  have hplace := hb.place_rowIndex hk hi hm
  rw [rowIndex_next_slot]
  generalize rowIndex entities.length f.slots.toNat k pre.length done.length = n at hn hplace
  have hspot : (stage f (pre ++ e₀ :: post) n values).place n.toUInt64
      = ⟨pre.length, done.length, k.toUInt64⟩ := by
    rw [hb.place_stage hes, hplace]
  have hg : (e₀.advanceTo k.toUInt64 f.interval).generators[done.length]? = some g := by
    rw [hb.interval_eq, hadv]
    exact getElem?_length_append done g gs
  have htags : e₀.tags = e.tags := by
    rw [← Entity.tags_advanceTo e₀ k.toUInt64 interval, hadv]
    rfl
  have hnumber : n.toUInt64 + 1 - 1 = n.toUInt64 := UInt64.add_sub_cancel _ _
  have hrun := next_row (not_past_stage hn _ values) hspot
    (entity_stage f pre post e₀ n values) hg {} s
  refine ⟨n.toUInt64 + 1, rowOf e₀ g (f.epochTime k.toUInt64) {} s,
    values + g.kind.fieldKeys.length.toUInt64, hrun.trans ?_, ?_⟩
  · show ((_, _, (stage f (pre ++ e₀ :: post) n values).count.store pre.length
      ((e₀.advanceTo k.toUInt64 f.interval).after done.length g s) _), _) = _
    rw [hb.interval_eq, hadv, after_mark, store_stage]
    rfl
  · show (f.place (n.toUInt64 + 1 - 1), rowOf e₀ g (f.epochTime k.toUInt64) {} s) = _
    rw [hnumber, hplace, hb.epochTime_eq hk, rowOf, htags, Generator.emit_run]
    rfl

end

section
variable {entities : List Entity} {window : Window} {interval : Duration} {f : Fleet}

/-! ## one lemma for each loop -/

/-- the slots that are left of an entity that was brought up to the epoch -/
theorem Built.drains_slots (hb : Built entities window interval f) {pre post : List Entity}
    (hlen : pre.length + (post.length + 1) = entities.length) {k : Nat} (hk : k < f.epochs.toNat)
    (e : Entity) (done gs : List Generator) (hM : done.length + gs.length = f.slots.toNat)
    (values : UInt64) (s : Stream) :
    ∃ values', Drains f gs.length
      (stage f (pre ++ mark k { e with generators := done ++ gs } :: post)
        (rowIndex entities.length f.slots.toNat k pre.length done.length) values) s
      ((sweepSlots k pre.length e.tags (timeOf window.start interval k) done.length gs).run s).1.1
      (stage f (pre ++ mark k { e with generators := done ++ ((sweepSlots k pre.length e.tags
          (timeOf window.start interval k) done.length gs).run s).1.2 } :: post)
        (rowIndex entities.length f.slots.toNat k (pre.length + 1) 0) values')
      ((sweepSlots k pre.length e.tags (timeOf window.start interval k) done.length gs).run s).2 := by
  -- on the slots that are left; the generators in `done` have made their row
  induction gs generalizing done values s with
  | nil =>
    rw [List.length_nil, Nat.add_zero] at hM
    rw [hM, rowIndex_next_entity]
    exact ⟨values, .nil _ _⟩
  | cons g gs ih =>
    rw [List.length_cons] at hM
    have hadv := Entity.advanceTo_of_le
      (show k.toUInt64 ≤ (mark k { e with generators := done ++ g :: gs }).tickedEpoch from
        UInt64.le_refl _) interval
    obtain ⟨number, row, values₁, hrun, hspot⟩ := hb.next_stage hlen hk hM hadv values s
    obtain ⟨values₂, hrest⟩ := ih (done ++ [(g.advance.run s).1.2])
      (by rw [List.length_append, List.length_singleton]; omega) values₁ (g.advance.run s).2
    rw [List.length_append, List.length_singleton, List.append_assoc, List.append_assoc] at hrest
    refine ⟨values₂, ?_⟩
    rw [sweepSlots_cons]
    have hcons := Drains.cons hrun hrest
    rw [hspot] at hcons
    exact hcons

/-- all slots of an entity, which the first of them brings up to the epoch -/
theorem Built.drains_entity (hb : Built entities window interval f) {pre post : List Entity}
    (hlen : pre.length + (post.length + 1) = entities.length) {k : Nat} (hk : k < f.epochs.toNat)
    {e : Entity} (hM : e.generators.length = f.slots.toNat) (values : UInt64) (s : Stream) :
    ∃ values', Drains f f.slots.toNat
      (stage f (pre ++ mark (k - 1) e :: post)
        (rowIndex entities.length f.slots.toNat k pre.length 0) values) s
      ((sweepEntity window.start interval k pre.length e).run s).1.1
      (stage f (pre ++ mark k ((sweepEntity window.start interval k pre.length e).run s).1.2 :: post)
        (rowIndex entities.length f.slots.toNat k (pre.length + 1) 0) values')
      ((sweepEntity window.start interval k pre.length e).run s).2 := by
  have hlength := length_begin interval k e
  have hpos := hb.slots_pos
  have hadv := advanceTo_mark interval (Nat.lt_trans hk f.epochs.toNat_lt_size) e
  rw [sweepEntity_run]
  cases hbegin : begin interval k e with
  | nil =>
    rw [hbegin, List.length_nil] at hlength
    omega
  | cons g gs =>
    rw [hbegin] at hadv hlength
    rw [List.length_cons, hM] at hlength
    obtain ⟨number, row, values₁, hrun, hspot⟩ := @Built.next_stage _ _ _ _ hb pre post hlen k hk _
      e [] gs g (by simpa using hlength) hadv values s
    obtain ⟨values₂, hrest⟩ := hb.drains_slots hlen hk e [(g.advance.run s).1.2] gs
      (by simpa [Nat.add_comm] using hlength) values₁ (g.advance.run s).2
    refine ⟨values₂, ?_⟩
    have hcons := Drains.cons hrun hrest
    rw [hspot, hlength] at hcons
    rw [sweepSlots_cons]
    exact hcons

/-- the entities that are left in an epoch -/
theorem Built.drains_entities (hb : Built entities window interval f) {k : Nat}
    (hk : k < f.epochs.toNat) {pre es : List Entity}
    (hlen : pre.length + es.length = entities.length)
    (hM : ∀ e ∈ es, e.generators.length = f.slots.toNat) (values : UInt64) (s : Stream) :
    ∃ values', Drains f (es.length * f.slots.toNat)
      (stage f (pre ++ es.map (mark (k - 1)))
        (rowIndex entities.length f.slots.toNat k pre.length 0) values) s
      ((sweepEntities window.start interval k pre.length es).run s).1.1
      (stage f (pre ++ ((sweepEntities window.start interval k pre.length es).run s).1.2.map (mark k))
        (rowIndex entities.length f.slots.toNat (k + 1) 0 0) values')
      ((sweepEntities window.start interval k pre.length es).run s).2 := by
  -- on the entities that are left; those in `pre` have come to epoch `k`, the others are one behind
  induction es generalizing pre values s with
  | nil =>
    rw [List.length_nil, Nat.add_zero] at hlen
    rw [List.length_nil, Nat.zero_mul, hlen, rowIndex_next_epoch]
    exact ⟨values, .nil _ _⟩
  | cons e es ih =>
    rw [List.length_cons] at hlen
    obtain ⟨values₁, hfirst⟩ := @Built.drains_entity _ _ _ _ hb pre (es.map (mark (k - 1)))
      (by rwa [List.length_map]) k hk e (hM e List.mem_cons_self) values s
    rw [sweepEntities_cons]
    generalize (sweepEntity window.start interval k pre.length e).run s = out at hfirst
    obtain ⟨values₂, hrest⟩ := @ih (pre ++ [mark k out.1.2])
      (by rw [List.length_append, List.length_singleton]; omega)
      (fun e he => hM e (List.mem_cons_of_mem _ he)) values₁ out.2
    rw [List.length_append, List.length_singleton, List.append_assoc, List.append_assoc] at hrest
    refine ⟨values₂, ?_⟩
    rw [List.length_cons, Nat.succ_mul, Nat.add_comm]
    exact hfirst.append hrest

/-- the epochs that are left -/
theorem Built.drains_epochs (hb : Built entities window interval f) {k n : Nat}
    (hk : k + n ≤ f.epochs.toNat) {es : List Entity}
    (hlengths : es.map (·.generators.length) = entities.map (·.generators.length)) (values : UInt64)
    (s : Stream) :
    ∃ values', Drains f (n * (entities.length * f.slots.toNat))
      (stage f (es.map (mark (k - 1))) (rowIndex entities.length f.slots.toNat k 0 0) values) s
      ((sweepEpochs window.start interval k n es).run s).1.1
      (stage f (((sweepEpochs window.start interval k n es).run s).1.2.map (mark (k + n - 1)))
        (rowIndex entities.length f.slots.toNat (k + n) 0 0) values')
      ((sweepEpochs window.start interval k n es).run s).2 := by
  induction n generalizing k es values s with
  | zero =>
    rw [Nat.zero_mul]
    exact ⟨values, .nil _ _⟩
  | succ n ih =>
    have hlen : es.length = entities.length := by
      simpa using congrArg List.length hlengths
    have hM : ∀ e ∈ es, e.generators.length = f.slots.toNat := by
      intro e he
      have hmem := List.mem_map_of_mem (f := (·.generators.length)) he
      rw [hlengths, List.mem_map] at hmem
      obtain ⟨e', he', hlength⟩ := hmem
      rw [← hlength, hb.slots_eq e' he']
    obtain ⟨values₁, hfirst⟩ := @Built.drains_entities _ _ _ _ hb k (by omega) [] es
      (by rwa [List.length_nil, Nat.zero_add]) hM values s
    obtain ⟨values₂, hrest⟩ := @ih (k + 1) (by omega) _
      ((lengths_sweepEntities window.start interval k 0 es s).trans hlengths)
      values₁ ((sweepEntities window.start interval k 0 es).run s).2
    refine ⟨values₂, ?_⟩
    rw [sweepEpochs_succ, Nat.succ_mul, Nat.add_comm (n * _), ← Nat.add_assoc, Nat.add_right_comm]
    rw [hlen] at hfirst
    exact hfirst.append hrest

end

end Telemetry.Fleet
