import Mathlib.Logic.Function.Basic
import Telemetry.Proofs.Fleet.Alike

/-!
# Callers that share a fleet

Any number of callers ask one fleet for rows, each with draws of its own.  A call of `next` is cut
into the steps that no other caller can divide, in the order in which `next` takes them:

* `take`   the number is handed out, and with it the place of the row; past the total the call ends;
* `raise`  the epoch of the entity is raised to that of the place, and the caller that raised it
           owes one tick to every generator for each epoch that was passed;
* `tick`   one generator ticks;
* `emit`   the generator in the slot makes the row, and its values are counted.

`Steps` are the runs of all callers in any order.  The step of a caller can be computed (`act`), and
so can a run in a given order of callers (`act_step`, `run_steps`).  A caller that is left alone for
one call does what `next` does: `solo_row` below the total, and `solo_past` past it.
-/

namespace Telemetry

open Telemetry.Random

namespace Entity

/-- the entity with its epoch raised; a smaller epoch changes nothing -/
def raise (e : Entity) (epoch : UInt64) : Entity :=
  { e with tickedEpoch := if e.tickedEpoch < epoch then epoch else e.tickedEpoch }

/-- the slots to tick after a raise, in order: every slot once for each epoch that was passed -/
def owed (e : Entity) (epoch : UInt64) : List Nat :=
  (List.replicate (e.behind epoch) (List.range e.generators.length)).flatten

/-- the entity with one generator one interval later -/
def tickSlot (interval : Duration) (e : Entity) (slot : Nat) : Entity :=
  { e with generators := e.generators.modify slot (Generator.tick interval) }

theorem layout_raise (e : Entity) (epoch : UInt64) : (e.raise epoch).layout = e.layout := rfl

theorem layout_tickSlot (interval : Duration) (e : Entity) (slot : Nat) :
    (e.tickSlot interval slot).layout = e.layout := by
  refine layout_of_labels (List.ext_getElem? fun i => ?_)
  rw [List.getElem?_map, List.getElem?_map, List.getElem?_modify]
  cases e.generators[i]? with
  | none => rfl
  | some g =>
    show some (Generator.label (if slot = i then Generator.tick interval g else g)) = some g.label
    split
    · rw [Generator.label_tick]
    · rfl

theorem modify_tail {α : Type} (f : α → α) (x : α) (l : List α) (slots : List Nat) :
    (slots.map (· + 1)).foldl (fun l i => l.modify i f) (x :: l)
      = x :: slots.foldl (fun l i => l.modify i f) l := by
  induction slots generalizing l with
  | nil => rfl
  | cons i slots ih =>
    rw [List.map_cons, List.foldl_cons, List.modify_succ_cons, ih, List.foldl_cons]

/-- changing every place of a list, one after another -/
theorem modify_range {α : Type} (f : α → α) (l : List α) :
    (List.range l.length).foldl (fun l i => l.modify i f) l = l.map f := by
  induction l with
  | nil => rfl
  | cons x l ih =>
    rw [List.length_cons, List.range_succ_eq_map, List.foldl_cons, List.modify_zero_cons,
      modify_tail, ih, List.map_cons]

theorem foldl_tickSlot (interval : Duration) (slots : List Nat) (e : Entity) :
    slots.foldl (tickSlot interval) e
      = { e with
          generators := slots.foldl (fun gs i => gs.modify i (Generator.tick interval))
            e.generators } := by
  induction slots generalizing e with
  | nil => rfl
  | cons i slots ih =>
    rw [List.foldl_cons, ih]
    rfl

/-- the ticks of a number of epochs, slot by slot -/
theorem modify_epochs (interval : Duration) (k : Nat) (gs : List Generator) :
    (List.replicate k (List.range gs.length)).flatten.foldl
        (fun gs i => gs.modify i (Generator.tick interval)) gs
      = tickTimes interval k gs := by
  induction k generalizing gs with
  | zero => rw [tickTimes_zero, List.replicate_zero, List.flatten_nil, List.foldl_nil]
  | succ k ih =>
    have hlength : gs.length = (gs.map (Generator.tick interval)).length := (List.length_map _).symm
    rw [List.replicate_succ, List.flatten_cons, List.foldl_append, modify_range, tickTimes_succ,
      hlength, ih]

/-- raising the epoch and paying the ticks brings the entity up to the epoch -/
theorem advanceTo_eq_raise (e : Entity) (epoch : UInt64) (interval : Duration) :
    e.advanceTo epoch interval = (e.owed epoch).foldl (tickSlot interval) (e.raise epoch) := by
  rw [foldl_tickSlot, owed]
  have hgenerators : (e.raise epoch).generators = e.generators := rfl
  rw [hgenerators, modify_epochs, advanceTo, raise]
  split
  · rfl
  · rename_i hlt
    rw [UInt64.lt_iff_toNat_lt] at hlt
    have hbehind : e.behind epoch = 0 := Nat.sub_eq_zero_of_le (by omega)
    rw [hbehind, tickTimes_zero]

end Entity

namespace Fleet

/-! ## the steps -/

/-- how far a caller is in a call -/
inductive Phase where
  /-- between two calls -/
  | idle
  /-- with a number and the place of its row -/
  | numbered (number : UInt64) (spot : Place) (p : Point)
  /-- with the slots whose ticks it still owes, in order -/
  | ticking (number : UInt64) (spot : Place) (p : Point) (owed : List Nat)

/-- a fleet and its callers, each with its own draws -/
structure World (n : Nat) where
  fleet : Fleet
  phase : Fin n → Phase
  stream : Fin n → Stream

/-- a fleet that no caller has asked yet -/
def World.start {n : Nat} (f : Fleet) (stream : Fin n → Stream) : World n :=
  ⟨f, fun _ => .idle, stream⟩

/-- the world with another fleet, and a caller in another phase -/
def World.move {n : Nat} (w : World n) (c : Fin n) (f : Fleet) (phase : Phase) : World n :=
  { w with fleet := f, phase := Function.update w.phase c phase }

/-- what a step does, and whose step it is -/
inductive Event (n : Nat) where
  | took (c : Fin n) (number : UInt64)
  | raised (c : Fin n) (spot : Place)
  | ticked (c : Fin n) (entity slot : Nat)
  | emitted (c : Fin n) (number : UInt64) (spot : Place) (p row : Point)

def Event.caller {n : Nat} : Event n → Fin n
  | .took c _ | .raised c _ | .ticked c _ _ | .emitted c _ _ _ _ => c

/-- one step of one caller -/
inductive Step {n : Nat} : World n → Event n → World n → Prop where
  | take {w : World n} {c : Fin n} (hphase : w.phase c = .idle) (p : Point) :
      Step w (.took c (w.fleet.made + 1))
        (w.move c w.fleet.count
          (if w.fleet.total < w.fleet.made + 1 then .idle
          else .numbered (w.fleet.made + 1) (w.fleet.place (w.fleet.made + 1 - 1)) p))
  | raise {w : World n} {c : Fin n} {number : UInt64} {spot : Place} {p : Point} {e : Entity}
      (hphase : w.phase c = .numbered number spot p)
      (he : w.fleet.entities[spot.entity]? = some e) :
      Step w (.raised c spot)
        (w.move c (w.fleet.put spot.entity (e.raise spot.epoch))
          (.ticking number spot p (e.owed spot.epoch)))
  | tick {w : World n} {c : Fin n} {number : UInt64} {spot : Place} {p : Point} {slot : Nat}
      {owed : List Nat} {e : Entity} (hphase : w.phase c = .ticking number spot p (slot :: owed))
      (he : w.fleet.entities[spot.entity]? = some e) :
      Step w (.ticked c spot.entity slot)
        (w.move c (w.fleet.put spot.entity (e.tickSlot w.fleet.interval slot))
          (.ticking number spot p owed))
  | emit {w : World n} {c : Fin n} {number : UInt64} {spot : Place} {p : Point} {e : Entity}
      {g : Generator} (hphase : w.phase c = .ticking number spot p [])
      (he : w.fleet.entities[spot.entity]? = some e) (hg : e.generators[spot.slot]? = some g) :
      Step w (.emitted c number spot p
          (rowOf e g (w.fleet.epochTime spot.epoch) p (w.stream c)))
        { w.move c (w.fleet.store spot.entity (e.after spot.slot g (w.stream c))
            g.kind.fieldKeys.length) .idle with
          stream := Function.update w.stream c (g.advance.run (w.stream c)).2 }

/-- the runs of all callers, step after step -/
inductive Steps {n : Nat} : World n → List (Event n) → World n → Prop where
  | refl (w : World n) : Steps w [] w
  | tail {w w' w'' : World n} {trace : List (Event n)} {event : Event n} (hsteps : Steps w trace w')
      (hstep : Step w' event w'') : Steps w (trace ++ [event]) w''

/-- the step of a caller, computed: a call that it begins fills the point `p` -/
def World.act {n : Nat} (w : World n) (c : Fin n) (p : Point) : Option (Event n × World n) :=
  match w.phase c with
  | .idle =>
    some (.took c (w.fleet.made + 1), w.move c w.fleet.count
      (if w.fleet.total < w.fleet.made + 1 then .idle
      else .numbered (w.fleet.made + 1) (w.fleet.place (w.fleet.made + 1 - 1)) p))
  | .numbered number spot p =>
    (w.fleet.entities[spot.entity]?).map fun e =>
      (.raised c spot, w.move c (w.fleet.put spot.entity (e.raise spot.epoch))
        (.ticking number spot p (e.owed spot.epoch)))
  | .ticking number spot p (slot :: owed) =>
    (w.fleet.entities[spot.entity]?).map fun e =>
      (.ticked c spot.entity slot,
        w.move c (w.fleet.put spot.entity (e.tickSlot w.fleet.interval slot))
          (.ticking number spot p owed))
  | .ticking number spot p [] =>
    (w.fleet.entities[spot.entity]?).bind fun e => (e.generators[spot.slot]?).map fun g =>
      (.emitted c number spot p (rowOf e g (w.fleet.epochTime spot.epoch) p (w.stream c)),
        { w.move c (w.fleet.store spot.entity (e.after spot.slot g (w.stream c))
            g.kind.fieldKeys.length) .idle with
          stream := Function.update w.stream c (g.advance.run (w.stream c)).2 })

/-- one step of each caller of a list after another, each into an empty point -/
def World.run {n : Nat} (w : World n) : List (Fin n) → Option (List (Event n) × World n)
  | [] => some ([], w)
  | c :: callers =>
    (w.act c {}).bind fun (event, w') =>
      (w'.run callers).map fun (trace, w'') => (event :: trace, w'')

section
variable {n : Nat} {w w' w'' : World n} {c : Fin n} {trace trace' : List (Event n)}

theorem World.act_step {event : Event n} {p : Point} (h : w.act c p = some (event, w')) :
    Step w event w' := by
  unfold act at h
  cases hphase : w.phase c with
  | idle =>
    rw [hphase] at h
    obtain ⟨rfl, rfl⟩ := Prod.mk.inj (Option.some.inj h)
    exact .take hphase p
  | numbered number spot p =>
    rw [hphase] at h
    obtain ⟨e, he, hstep⟩ := Option.map_eq_some_iff.1 h
    obtain ⟨rfl, rfl⟩ := Prod.mk.inj hstep
    exact .raise hphase he
  | ticking number spot p owed =>
    rw [hphase] at h
    cases owed with
    | cons slot owed =>
      obtain ⟨e, he, hstep⟩ := Option.map_eq_some_iff.1 h
      obtain ⟨rfl, rfl⟩ := Prod.mk.inj hstep
      exact .tick hphase he
    | nil =>
      obtain ⟨e, he, hrow⟩ := Option.bind_eq_some_iff.1 h
      obtain ⟨g, hg, hstep⟩ := Option.map_eq_some_iff.1 hrow
      obtain ⟨rfl, rfl⟩ := Prod.mk.inj hstep
      exact .emit hphase he hg

theorem Steps.trans (h₁ : Steps w trace w') (h₂ : Steps w' trace' w'') :
    Steps w (trace ++ trace') w'' := by
  induction h₂ with
  | refl => rwa [List.append_nil]
  | tail _ hstep ih =>
    rw [← List.append_assoc]
    exact .tail ih hstep

theorem Steps.single {event : Event n} (h : Step w event w') : Steps w [event] w' :=
  .tail (.refl w) h

/-- what is computed is a run -/
theorem World.run_steps {callers : List (Fin n)} (h : w.run callers = some (trace, w')) :
    Steps w trace w' := by
  induction callers generalizing w trace with
  | nil =>
    obtain ⟨rfl, rfl⟩ := Prod.mk.inj (Option.some.inj h)
    exact .refl w
  | cons c callers ih =>
    obtain ⟨⟨event, w₁⟩, hact, hrest⟩ := Option.bind_eq_some_iff.1 h
    obtain ⟨⟨later, w₂⟩, hrun, hsame⟩ := Option.map_eq_some_iff.1 hrest
    obtain ⟨rfl, rfl⟩ := Prod.mk.inj hsame
    exact (Steps.single (act_step hact)).trans (ih hrun)

theorem World.move_move (w : World n) (c : Fin n) (f f' : Fleet) (phase phase' : Phase) :
    (w.move c f phase).move c f' phase' = w.move c f' phase' := by
  unfold move
  rw [Function.update_idem]

theorem World.phase_move (w : World n) (c : Fin n) (f : Fleet) (phase : Phase) :
    (w.move c f phase).phase c = phase := Function.update_self _ _ _

theorem World.move_self {phase : Phase} (h : w.phase c = phase) : w.move c w.fleet phase = w := by
  unfold move
  rw [← h, Function.update_eq_self]

end

section
variable {f : Fleet} {i : Nat} {e : Entity}

theorem put_put (f : Fleet) (i : Nat) (e e' : Entity) : (f.put i e).put i e' = f.put i e' := by
  unfold put
  rw [Array.setIfInBounds_setIfInBounds]

theorem store_put (f : Fleet) (i : Nat) (e e' : Entity) (n : Nat) :
    (f.put i e).store i e' n = f.store i e' n := by
  rw [store, put_put, store]
  rfl

theorem put_self (he : f.entities[i]? = some e) : f.put i e = f := by
  obtain ⟨hlt, rfl⟩ := Array.getElem?_eq_some_iff.1 he
  rw [put, Array.setIfInBounds, dif_pos hlt, Array.set_getElem_self]

theorem entities_put_ne {j : Nat} (hij : i ≠ j) (f : Fleet) (e' : Entity) :
    (f.put i e').entities[j]? = f.entities[j]? := Array.getElem?_setIfInBounds_ne hij

theorem entities_put_self (he : f.entities[i]? = some e) (e' : Entity) :
    (f.put i e').entities[i]? = some e' :=
  Array.getElem?_setIfInBounds_self_of_lt (Array.getElem?_eq_some_iff.1 he).1

end

/-! ## a caller left alone -/

section
variable {n : Nat} {w : World n} {c : Fin n} {number : UInt64} {spot : Place} {p : Point}

/-- the ticks that a caller owes, without another caller between them -/
theorem solo_ticks {owed : List Nat} {e : Entity} (hphase : w.phase c = .ticking number spot p owed)
    (he : w.fleet.entities[spot.entity]? = some e) :
    ∃ trace, (∀ event ∈ trace, event.caller = c) ∧ Steps w trace
      (w.move c (w.fleet.put spot.entity (owed.foldl (Entity.tickSlot w.fleet.interval) e))
        (.ticking number spot p [])) := by
  induction owed generalizing w e with
  | nil =>
    refine ⟨[], fun _ h => absurd h List.not_mem_nil, ?_⟩
    rw [List.foldl_nil, put_self he, World.move_self hphase]
    exact .refl w
  | cons slot owed ih =>
    have hstep := Step.tick hphase he
    obtain ⟨trace, hcaller, hsteps⟩ := ih (w.phase_move c _ _) (entities_put_self he _)
    refine ⟨.ticked c spot.entity slot :: trace, ?_, ?_⟩
    · intro event hevent
      rcases List.mem_cons.1 hevent with rfl | hevent
      · rfl
      · exact hcaller event hevent
    · have htrans := (Steps.single hstep).trans hsteps
      rw [World.move_move] at htrans
      have hput := put_put w.fleet spot.entity (e.tickSlot w.fleet.interval slot)
        (owed.foldl (Entity.tickSlot w.fleet.interval) (e.tickSlot w.fleet.interval slot))
      rw [List.foldl_cons, ← hput]
      exact htrans

/-- a caller with a number brings the entity up to the epoch of its place -/
theorem solo_advance {e : Entity} (hphase : w.phase c = .numbered number spot p)
    (he : w.fleet.entities[spot.entity]? = some e) :
    ∃ trace, (∀ event ∈ trace, event.caller = c) ∧ Steps w trace
      (w.move c (w.fleet.put spot.entity (e.advanceTo spot.epoch w.fleet.interval))
        (.ticking number spot p [])) := by
  have hraise := Step.raise hphase he
  obtain ⟨trace, hcaller, hsteps⟩ := solo_ticks (w.phase_move c _ _) (entities_put_self he _)
  refine ⟨.raised c spot :: trace, ?_, ?_⟩
  · intro event hevent
    rcases List.mem_cons.1 hevent with rfl | hevent
    · rfl
    · exact hcaller event hevent
  · have htrans := (Steps.single hraise).trans hsteps
    rw [World.move_move] at htrans
    rw [Entity.advanceTo_eq_raise, ← put_put w.fleet spot.entity (e.raise spot.epoch)]
    exact htrans

/-- a caller that is left alone past the total does what `next` does -/
theorem solo_past (hidle : w.phase c = .idle) (hpast : w.fleet.total < w.fleet.made + 1)
    (p : Point) : Step w (.took c (w.fleet.made + 1))
      { w with fleet := ((w.fleet.next p).run (w.stream c)).1.2.2 } := by
  have hstep := Step.take hidle p
  rw [if_pos hpast, World.move, ← hidle, Function.update_eq_self] at hstep
  rw [next_past hpast]
  exact hstep

/-- **A caller that is left alone for a row does what `next` does**, to the fleet, to its draws and
to its point. -/
theorem solo_row (hidle : w.phase c = .idle) (hrow : ¬ w.fleet.total < w.fleet.made + 1)
    (hspot : w.fleet.place w.fleet.made = spot) {e : Entity} {g : Generator}
    (he : w.fleet.entities[spot.entity]? = some e)
    (hg : (e.advanceTo spot.epoch w.fleet.interval).generators[spot.slot]? = some g) (p : Point) :
    ∃ trace, (∀ event ∈ trace, event.caller = c) ∧
      Steps w (trace ++ [.emitted c ((w.fleet.next p).run (w.stream c)).1.1 spot p
          ((w.fleet.next p).run (w.stream c)).1.2.1])
        { w with
          fleet := ((w.fleet.next p).run (w.stream c)).1.2.2
          stream := Function.update w.stream c ((w.fleet.next p).run (w.stream c)).2 } := by
  have hmade : w.fleet.made + 1 - 1 = w.fleet.made := UInt64.add_sub_cancel _ _
  have htake := Step.take hidle p
  rw [if_neg hrow, hmade, hspot] at htake
  have he₁ : (w.move c w.fleet.count (.numbered (w.fleet.made + 1) spot p)).fleet.entities[
      spot.entity]? = some e := he
  obtain ⟨trace, hcaller, hsteps⟩ := solo_advance (w.phase_move c _ _) he₁
  rw [World.move_move] at hsteps
  have he₂ := entities_put_self he₁ (e.advanceTo spot.epoch w.fleet.interval)
  have hemit := @Step.emit n (w.move c (w.fleet.count.put spot.entity
    (e.advanceTo spot.epoch w.fleet.interval)) (.ticking (w.fleet.made + 1) spot p [])) c _ _ _ _ _
    (w.phase_move c _ _) he₂ hg
  refine ⟨.took c (w.fleet.made + 1) :: trace, ?_, ?_⟩
  · intro event hevent
    rcases List.mem_cons.1 hevent with rfl | hevent
    · rfl
    · exact hcaller event hevent
  · have htrans := (Steps.single htake).trans (Steps.tail hsteps hemit)
    have hstore := store_put w.fleet.count spot.entity (e.advanceTo spot.epoch w.fleet.interval)
      ((e.advanceTo spot.epoch w.fleet.interval).after spot.slot g (w.stream c))
      g.kind.fieldKeys.length
    have hphase : Function.update w.phase c .idle = w.phase := by
      rw [← hidle, Function.update_eq_self]
    rw [World.move_move] at htrans
    rw [next_row hrow hspot he hg, ← hstore, ← rowOf_advanceTo e spot.epoch w.fleet.interval]
    unfold World.move at htrans
    rw [hphase] at htrans
    exact htrans

end

end Fleet

end Telemetry
