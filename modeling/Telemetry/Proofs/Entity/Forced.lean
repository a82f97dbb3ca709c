import Mathlib.Data.List.Forall2
import Mathlib.Data.List.Induction
import Telemetry.Entity.Device
import Telemetry.Entity.Host
import Telemetry.Proofs.Generator.Forced

/-!
# Two tables of overrides

The same host or device, built with two tables of overrides and then used in the same way.

* `Setting`, `Overrides.ofSettings`  a table made by a sequence of settings;
* `Overrides.latest?`       what the latest setting for a tag says, which is what the table holds;
* `Entity.Act`, `live`      what can be done with an entity, and the rows of a sequence of acts;
* `Emission.Alike`          rows that differ at most in tag values for which the tables differ;
* `Emission.Carries`        a row with every value that a table forces for it;
* `Plan`, `Plan.life`       how an entity is built, and the whole of its life;
* `life_ofSettings`         the lives of an entity under two tables, side by side.

An entity that is built with a table is the entity that is built without one, with its tag values
replaced (`Entity.force`).  So one act is followed for all tables at once (`act_force`), and from it
a sequence of acts (`live_force`).
-/

namespace Telemetry

open Telemetry.Random

/-! ## tables -/

/-- one forced value, as a caller sets it -/
structure Setting where
  measurement : String
  tag : String
  value : String

namespace Overrides

def ofSettings (xs : List Setting) : Overrides :=
  xs.foldl (fun o x => o.set x.measurement x.tag x.value) {}

def latest? (xs : List Setting) (measurement tag : String) : Option String :=
  (xs.reverse.find? fun x => decide (x.measurement = measurement ∧ x.tag = tag)).map (·.value)

theorem get?_ofSettings (xs : List Setting) (m t : String) :
    (ofSettings xs).get? m t = latest? xs m t := by
  induction xs using List.reverseRecOn with
  | nil => rfl
  | append_singleton xs x ih =>
    have hset : ofSettings (xs ++ [x]) = (ofSettings xs).set x.measurement x.tag x.value :=
      List.foldl_concat ..
    rw [hset, latest?, List.reverse_concat, List.find?_cons]
    by_cases h : x.measurement = m ∧ x.tag = t
    · obtain ⟨rfl, rfl⟩ := h
      rw [get?_set_self, decide_eq_true ⟨rfl, rfl⟩]
      rfl
    · have hne : m ≠ x.measurement ∨ t ≠ x.tag :=
        (not_and_or.1 h).imp (fun h e => h e.symm) fun h e => h e.symm
      rw [get?_set_of_ne _ _ hne, ih, decide_eq_false h]
      rfl

end Overrides

/-! ## acts -/

/-- a row, and the point that a generator has added it to -/
structure Emission where
  before : Point
  row : Point

namespace Entity

inductive Act where
  /-- one generator one interval later -/
  | tick (slot : Nat) (interval : Duration)
  /-- all generators brought up to an epoch -/
  | advance (epoch : UInt64) (interval : Duration)
  /-- a row of a generator, added to a point -/
  | emit (slot : Nat) (p : Point)
  /-- a row of a generator, added to a point behind the tags of the entity -/
  | row (slot : Nat) (p : Point)

/-- a row of the measurement `slot`, if there is one -/
def emission (e : Entity) (slot : Nat) (p : Point) : Draw (Option Emission × Entity) :=
  match e.emit? slot p with
  | none => return (none, e)
  | some emitted => do
    let (row, e') ← emitted
    return (some ⟨p, row⟩, e')

def act (e : Entity) : Act → Draw (Option Emission × Entity)
  | .tick slot interval =>
    return (none, { e with generators := e.generators.modify slot (Generator.tick interval) })
  | .advance epoch interval => return (none, e.advanceTo epoch interval)
  | .emit slot p => e.emission slot p
  | .row slot p => e.emission slot (e.appendTags p)

def live (e : Entity) : List Act → Draw (List Emission × Entity)
  | [] => return ([], e)
  | x :: acts => do
    let (row, e') ← e.act x
    let (rows, e'') ← e'.live acts
    return (row.toList ++ rows, e'')

def force (o : Overrides) (e : Entity) : Entity :=
  { e with generators := e.generators.map (Generator.force o) }

end Entity

/-! ## rows under two tables -/

/-- two rows that differ at most in tag values, and there only where two tables differ -/
structure Emission.Alike (o o' : Overrides) (x y : Emission) : Prop where
  before : x.before = y.before
  measurement : x.row.measurement = y.row.measurement
  timestamp : x.row.timestamp = y.row.timestamp
  fields : x.row.fields = y.row.fields
  tags : List.Forall₂ (fun t u => t.key = u.key ∧
    (t.value ≠ u.value → o.get? x.row.measurement t.key ≠ o'.get? x.row.measurement t.key))
      x.row.tags y.row.tags

/-- a row in which the tags that the generator has added have the values that a table forces -/
def Emission.Carries (o : Overrides) (x : Emission) : Prop :=
  ∃ kind : Kind, ∃ own : List Tag, x.row.measurement = kind.name ∧
    x.row.tags = x.before.tags ++ own ∧ own.map (·.key) = kind.tagKeys ∧
      ∀ t ∈ own, ∀ v, o.get? kind.name t.key = some v → t.value = v

/-- the rows of a run, for every table: alike for any two, and with the forced values for each -/
structure Forcible (rows : Overrides → List Emission) : Prop where
  alike : ∀ o o', List.Forall₂ (Emission.Alike o o') (rows o) (rows o')
  carries : ∀ o, ∀ x ∈ rows o, x.Carries o

theorem Forcible.nil : Forcible fun _ => [] where
  alike := fun _ _ => .nil
  carries := fun _ => List.forall_mem_nil _

theorem Forcible.append {rows rows' : Overrides → List Emission} (h : Forcible rows)
    (h' : Forcible rows') : Forcible fun o => rows o ++ rows' o where
  alike := fun o o' => List.rel_append (h.alike o o') (h'.alike o o')
  carries := fun o => List.forall_mem_append.2 ⟨h.carries o, h'.carries o⟩

namespace Generator

def forcedRow (g : Generator) (o : Overrides) (p : Point) (s : Stream) : Point :=
  { p with
    measurement := g.kind.name
    tags := p.tags ++ g.tags.map (o.forceTag g.kind.name)
    fields := p.fields ++ g.fields (g.advance.run s).1.1 }

theorem emit_force (g : Generator) (o : Overrides) (p : Point) (s : Stream) :
    ((g.force o).emit p).run s
      = ((true, g.forcedRow o p s, (g.advance.run s).1.2.force o), (g.advance.run s).2) := by
  rw [emit_run, force_advance, kind_force, tags_force, fields, kind_force]
  rfl

theorem carries_forcedRow (g : Generator) (o : Overrides) (p : Point) (s : Stream) :
    Emission.Carries o ⟨p, g.forcedRow o p s⟩ := by
  refine ⟨g.kind, g.tags.map (o.forceTag g.kind.name), rfl, rfl, ?_, ?_⟩
  · rw [List.map_map, ← g.keys_tags]
    rfl
  · intro t ht v hv
    obtain ⟨t, -, rfl⟩ := List.mem_map.1 ht
    exact Overrides.getD_eq_of_get? hv t.value

theorem alike_forcedRow (g : Generator) (o o' : Overrides) (p : Point) (s : Stream) :
    Emission.Alike o o' ⟨p, g.forcedRow o p s⟩ ⟨p, g.forcedRow o' p s⟩ where
  before := rfl
  measurement := rfl
  timestamp := rfl
  fields := rfl
  tags := by
    -- the tags of the point are the same, and those of the generator differ where `getD` does
    refine List.rel_append (List.forall₂_same.2 fun t _ => ⟨rfl, fun h => absurd rfl h⟩) ?_
    rw [List.forall₂_map_left_iff, List.forall₂_map_right_iff, List.forall₂_same]
    exact fun t _ => ⟨rfl, fun h hget => h (Overrides.getD_congr hget t.value)⟩

theorem forcible_forcedRow (g : Generator) (p : Point) (s : Stream) :
    Forcible fun o => [⟨p, g.forcedRow o p s⟩] where
  alike := fun o o' => .cons (g.alike_forcedRow o o' p s) .nil
  carries := fun o => List.forall_mem_singleton.2 (g.carries_forcedRow o p s)

end Generator

/-! ## one act, and a sequence of acts -/

namespace Entity

section
variable (e : Entity)

theorem tickTimes_force (o : Overrides) (interval : Duration) (n : Nat) (gs : List Generator) :
    tickTimes interval n (gs.map (Generator.force o))
      = (tickTimes interval n gs).map (Generator.force o) := by
  induction n generalizing gs with
  | zero => rw [tickTimes_zero, tickTimes_zero]
  | succ n ih =>
    rw [tickTimes_succ, tickTimes_succ, ← ih, List.map_map, List.map_map]
    exact congrArg _ (List.map_congr_left fun g _ => g.force_tick o interval)

theorem modify_force (o : Overrides) (interval : Duration) (slot : Nat) (gs : List Generator) :
    (gs.map (Generator.force o)).modify slot (Generator.tick interval)
      = (gs.modify slot (Generator.tick interval)).map (Generator.force o) := by
  induction gs generalizing slot with
  | nil => simp
  | cons g gs ih =>
    cases slot with
    | zero => simp [g.force_tick]
    | succ slot => simp [ih]

theorem advanceTo_force (o : Overrides) (epoch : UInt64) (interval : Duration) :
    (e.force o).advanceTo epoch interval = (e.advanceTo epoch interval).force o := by
  show (if e.tickedEpoch < epoch then _ else _) = _
  rw [advanceTo]
  split
  · rw [force, force, ← tickTimes_force]
    rfl
  · rfl

/-- a row is added with the same state and the same draws under every table -/
theorem emission_force (slot : Nat) (p : Point) (s : Stream) :
    ∃ (e' : Entity) (s' : Stream) (row : Overrides → Option Emission),
      (∀ o, ((e.force o).emission slot p).run s = ((row o, e'.force o), s'))
        ∧ Forcible fun o => (row o).toList := by
  cases hg : e.generators[slot]? with
  | none =>
    refine ⟨e, s, fun _ => none, fun o => ?_, Forcible.nil⟩
    rw [emission, emit?, force, List.getElem?_map, hg]
    rfl
  | some g =>
    refine ⟨{ e with generators := e.generators.set slot (g.advance.run s).1.2 },
      (g.advance.run s).2, fun o => some ⟨p, g.forcedRow o p s⟩, fun o => ?_,
      g.forcible_forcedRow p s⟩
    rw [emission, emit?, force, List.getElem?_map, hg]
    simp only [Option.map_some, StateT.run_bind]
    rw [g.emit_force, force, List.map_set]
    rfl

/-- **One act**: the entity after it, the draws and the rows but for their tag values do not depend
on the table. -/
theorem act_force (x : Act) (s : Stream) :
    ∃ (e' : Entity) (s' : Stream) (row : Overrides → Option Emission),
      (∀ o, ((e.force o).act x).run s = ((row o, e'.force o), s'))
        ∧ Forcible fun o => (row o).toList := by
  cases x with
  | tick slot interval =>
    refine ⟨{ e with generators := e.generators.modify slot (Generator.tick interval) }, s,
      fun _ => none, fun o => ?_, Forcible.nil⟩
    rw [act, force, modify_force]
    rfl
  | advance epoch interval =>
    refine ⟨e.advanceTo epoch interval, s, fun _ => none, fun o => ?_, Forcible.nil⟩
    rw [act, advanceTo_force]
    rfl
  | emit slot p => exact e.emission_force slot p s
  | row slot p => exact e.emission_force slot (e.appendTags p) s

theorem live_cons (x : Act) (acts : List Act) (s : Stream) :
    (e.live (x :: acts)).run s
      = ((((e.act x).run s).1.1.toList
            ++ ((((e.act x).run s).1.2.live acts).run ((e.act x).run s).2).1.1,
          ((((e.act x).run s).1.2.live acts).run ((e.act x).run s).2).1.2),
        ((((e.act x).run s).1.2.live acts).run ((e.act x).run s).2).2) := rfl

/-- **A sequence of acts**, by one act after the other. -/
theorem live_force (acts : List Act) (s : Stream) :
    ∃ (e' : Entity) (s' : Stream) (rows : Overrides → List Emission),
      (∀ o, ((e.force o).live acts).run s = ((rows o, e'.force o), s')) ∧ Forcible rows := by
  induction acts generalizing e s with
  | nil => exact ⟨e, s, fun _ => [], fun _ => rfl, Forcible.nil⟩
  | cons x acts ih =>
    obtain ⟨e', s', row, hact, hrow⟩ := e.act_force x s
    obtain ⟨e'', s'', rows, hlive, hrows⟩ := ih e' s'
    refine ⟨e'', s'', fun o => (row o).toList ++ rows o, fun o => ?_, hrow.append hrows⟩
    rw [live_cons, hact, hlive]

end

end Entity

/-! ## whole lives -/

inductive Plan where
  | host (index offset : UInt64) (start : Int64) (kinds : List Kind)
  | device (index offset : UInt64) (start : Int64) (perSite : UInt64) (regions : RegionTable)

/-- the rows of an entity, the choices that are left when it is built, and the draws that are left
in the end -/
structure Life where
  choices : Attributes
  rows : List Emission
  draws : Stream

namespace Plan

/-- what comes of building an entity, apart from the entity; `none` if building it is cut off -/
def check : Plan → Option (Except ConfigFault Unit)
  | .host index offset _ _ => (Word.add? index offset).map fun _ => .ok ()
  | .device index offset _ perSite regions =>
    match Device.check regions perSite with
    | .error fault => some (.error fault)
    | .ok () => (Word.add? index offset).map fun _ => .ok ()

def build (o : Overrides) : Plan → OptionT Choice (Except ConfigFault Entity)
  | .host index offset start kinds => .ok <$> Host.new index offset start kinds o
  | .device index offset start perSite regions =>
    Device.new? index offset start perSite regions o

/-- the entity is built, and a sequence of acts follows -/
def life (plan : Plan) (o : Overrides) (acts : List Entity.Act) (a : Attributes) (s : Stream) :
    Option (Except ConfigFault Life) :=
  let (built, choices) := (plan.build o).run.run a
  built.map fun made => made.map fun e =>
    let ((rows, _), draws) := (e.live acts).run s
    ⟨choices, rows, draws⟩

end Plan

section
variable (o : Overrides)

theorem mapM_new_force (start : Int64) (kinds : List Kind) :
    (kinds.mapM fun kind => Generator.new kind start o)
      = List.map (Generator.force o) <$> kinds.mapM fun kind => Generator.new kind start {} := by
  induction kinds with
  | nil => rfl
  | cons kind kinds ih =>
    rw [List.mapM_cons, List.mapM_cons, ih, Generator.new_force]
    simp only [bind_map_left, map_bind, map_pure, List.map_cons]

theorem Host.ofNumber_force (n : UInt64) (start : Int64) (kinds : List Kind) :
    Host.ofNumber n start kinds o = Entity.force o <$> Host.ofNumber n start kinds {} := by
  simp only [Host.ofNumber, mapM_new_force o, bind_map_left, map_bind, map_pure, Entity.force]

theorem Device.ofNumber_force (n : UInt64) (start : Int64) (perSite : UInt64)
    (regions : RegionTable) :
    Device.ofNumber n start perSite regions o
      = Entity.force o <$> Device.ofNumber n start perSite regions {} := by
  simp only [Device.ofNumber, Generator.new_force o .cityUtility, bind_map_left, map_bind, map_pure,
    Entity.force, List.map_cons, List.map_nil]

end

namespace Plan

/-- building fails before any choice is taken, or it takes the same choices under every table -/
inductive Forced (build : Overrides → OptionT Choice (Except ConfigFault Entity)) :
    Option (Except ConfigFault Unit) → Prop where
  | lost (hbuild : ∀ o a, (build o).run.run a = (none, a)) : Forced build none
  | refused {fault : ConfigFault} (hbuild : ∀ o a, (build o).run.run a = (some (.error fault), a)) :
    Forced build (some (.error fault))
  | built (c : Choice Entity)
    (hbuild : ∀ o a, (build o).run.run a = (some (.ok ((c.run a).1.force o)), (c.run a).2)) :
    Forced build (some (.ok ()))

theorem forced_numbered {make : Overrides → UInt64 → Choice Entity}
    (hmake : ∀ o n, make o n = Entity.force o <$> make {} n) (index offset : UInt64) :
    Forced (fun o => .ok <$> Entity.numbered index offset (make o))
      ((Word.add? index offset).map fun _ => .ok ()) := by
  unfold Entity.numbered
  cases Word.add? index offset with
  | none => exact .lost fun o a => rfl
  | some n =>
    refine .built (make {} n) fun o a => ?_
    have hrun := congrArg (fun m : Choice Entity => (m.run a : Entity × Attributes)) (hmake o n)
    exact congrArg (Prod.map (fun e => some (Except.ok e)) id) hrun

theorem forced_build (plan : Plan) : Forced (plan.build ·) plan.check := by
  cases plan with
  | host index offset start kinds =>
    exact forced_numbered (fun o n => Host.ofNumber_force o n start kinds) index offset
  | device index offset start perSite regions =>
    have hnumbered := forced_numbered
      (fun o n => Device.ofNumber_force o n start perSite regions) index offset
    show Forced (fun o => Device.new? index offset start perSite regions o)
      (match Device.check regions perSite with
        | .error fault => some (.error fault)
        | .ok () => (Word.add? index offset).map fun _ => .ok ())
    unfold Device.new?
    cases Device.check regions perSite with
    | error fault => exact .refused fun o a => rfl
    | ok => exact hnumbered

/-- **Two tables of overrides**, each made by any sequence of settings, and the same plan, acts,
choices and draws.  What is wrong with the plan is wrong under both.  Otherwise building the entity
leaves the same choices and the acts leave the same draws; the rows differ at most in tag values
where the latest settings differ; and every row carries what its own table forces. -/
theorem life_ofSettings (plan : Plan) (acts : List Entity.Act) (a : Attributes) (s : Stream)
    (xs ys : List Setting) :
    ((∀ m t, (Overrides.ofSettings xs).get? m t = Overrides.latest? xs m t)
        ∧ ∀ m t, (Overrides.ofSettings ys).get? m t = Overrides.latest? ys m t)
      ∧ match plan.check with
        | none =>
          plan.life (.ofSettings xs) acts a s = none ∧ plan.life (.ofSettings ys) acts a s = none
        | some (.error fault) =>
          plan.life (.ofSettings xs) acts a s = some (.error fault)
            ∧ plan.life (.ofSettings ys) acts a s = some (.error fault)
        | some (.ok ()) => ∃ (choices : Attributes) (draws : Stream) (rows rows' : List Emission),
          plan.life (.ofSettings xs) acts a s = some (.ok ⟨choices, rows, draws⟩)
            ∧ plan.life (.ofSettings ys) acts a s = some (.ok ⟨choices, rows', draws⟩)
            ∧ List.Forall₂ (Emission.Alike (.ofSettings xs) (.ofSettings ys)) rows rows'
            ∧ (∀ x ∈ rows, x.Carries (.ofSettings xs))
            ∧ ∀ y ∈ rows', y.Carries (.ofSettings ys) := by
  refine ⟨⟨Overrides.get?_ofSettings xs, Overrides.get?_ofSettings ys⟩, ?_⟩
  have hforced := plan.forced_build
  generalize plan.check = outcome at hforced
  cases hforced with
  | lost hbuild =>
    have hlife : ∀ o, plan.life o acts a s = none := by
      intro o
      rw [life, hbuild]
      rfl
    exact ⟨hlife _, hlife _⟩
  | @refused fault hbuild =>
    have hlife : ∀ o, plan.life o acts a s = some (.error fault) := by
      intro o
      rw [life, hbuild]
      rfl
    exact ⟨hlife _, hlife _⟩
  | built c hbuild =>
    obtain ⟨e', draws, rows, hlive, hrows⟩ := (c.run a).1.live_force acts s
    have hlife : ∀ o, plan.life o acts a s = some (.ok ⟨(c.run a).2, rows o, draws⟩) := by
      intro o
      rw [life, hbuild]
      show some (Except.ok (Life.mk (c.run a).2 ((((c.run a).1.force o).live acts).run s).1.1
        ((((c.run a).1.force o).live acts).run s).2)) = _
      rw [hlive]
    exact ⟨_, _, _, _, hlife _, hlife _, hrows.alike _ _, hrows.carries _, hrows.carries _⟩

end Plan

end Telemetry
