import Telemetry.Proofs.Fleet.Row

/-!
# States of one fleet

Rows, queries and reports move the counters, the generators and the templates of a fleet, and
nothing else.

* `Entity.layout`  what stays of an entity: its number, its tags, and kind and tag values of each
                   generator;
* `Alike f g`      two states of one fleet: all that is not a counter, a generator's state or a
                   template is the same;
* `Entity.Reported` what a row leaves of its entity;
* `map_put`        what stays of an entity stays of the fleet around it;
* `Adds e g time`  a point with a row of a generator of an entity added;
* `Alike.next_adds`     below the total, `next` adds a row of the place of its number;
* `Alike.next_counts`   past the total, `next` only counts the call;
* `next_cases`          all that a call of `next` can leave, whatever the state is, and from it
                        `alike_next`, `written_next` and `map_next`.
-/

namespace Telemetry

open Telemetry.Random

/-- what rows and ticks leave alone in an entity -/
def Entity.layout (e : Entity) : UInt64 × List Tag × List (Kind × List String) :=
  (e.index, e.tags, e.generators.map Generator.label)

/-! ## entities -/

namespace Entity
variable {e e' : Entity}

theorem tags_of_layout (h : e'.layout = e.layout) : e'.tags = e.tags :=
  congrArg (·.2.1) h

theorem labels_of_layout (h : e'.layout = e.layout) :
    e'.generators.map Generator.label = e.generators.map Generator.label :=
  congrArg (·.2.2) h

theorem length_of_layout (h : e'.layout = e.layout) :
    e'.generators.length = e.generators.length := by
  have hlength := congrArg List.length (labels_of_layout h)
  rwa [List.length_map, List.length_map] at hlength

theorem layout_advanceTo (e : Entity) (epoch : UInt64) (interval : Duration) :
    (e.advanceTo epoch interval).layout = e.layout := by
  rw [layout, index_advanceTo, tags_advanceTo, map_label_advanceTo, layout]

theorem layout_of_labels {gs : List Generator}
    (h : gs.map Generator.label = e.generators.map Generator.label) :
    { e with generators := gs }.layout = e.layout := by
  show (e.index, e.tags, gs.map Generator.label) = _
  rw [h]
  rfl

theorem layout_after {slot : Nat} {g : Generator} (h : e.generators[slot]? = some g) (s : Stream) :
    (e.after slot g s).layout = e.layout := by
  have hslot : (e.generators.map Generator.label)[slot]? = some g.label := by
    rw [List.getElem?_map, h, Option.map_some]
  obtain ⟨hlt, heq⟩ := List.getElem?_eq_some_iff.1 hslot
  refine layout_of_labels ?_
  rw [List.map_set, Generator.label_advance, ← heq, List.set_getElem_self]

/-- an entity after a row: brought up to an epoch, with a row of one of its generators made -/
def Reported (interval : Duration) (s : Stream) (e e' : Entity) : Prop :=
  ∃ epoch slot g, (e.advanceTo epoch interval).generators[slot]? = some g ∧
    e' = (e.advanceTo epoch interval).after slot g s

theorem Reported.layout_eq {interval : Duration} {s : Stream} (h : Reported interval s e e') :
    e'.layout = e.layout := by
  obtain ⟨epoch, slot, g, hg, rfl⟩ := h
  rw [layout_after hg, layout_advanceTo]

/-- a generator keeps its slot and its label -/
theorem generator_of_layout (h : e'.layout = e.layout) {slot : Nat} {g : Generator}
    (hg : e.generators[slot]? = some g) :
    ∃ g', e'.generators[slot]? = some g' ∧ g'.label = g.label := by
  have hmap : (e'.generators.map Generator.label)[slot]? = some g.label := by
    rw [labels_of_layout h, List.getElem?_map, hg, Option.map_some]
  rw [List.getElem?_map] at hmap
  exact Option.map_eq_some_iff.1 hmap

end Entity

namespace Fleet

/-- what another entity shows like the one in its place, it shows in the fleet as well -/
theorem map_put {α : Type} {f : Fleet} {i : Nat} {e e' : Entity} (view : Entity → α)
    (he : f.entities[i]? = some e) (hview : view e' = view e) :
    (f.put i e').entities.map view = f.entities.map view := by
  obtain ⟨hlt, -⟩ := Array.getElem?_eq_some_iff.1 he
  show (f.entities.setIfInBounds i e').map view = _
  apply Array.ext_getElem?
  intro j
  rw [Array.getElem?_map, Array.getElem?_map]
  by_cases hij : i = j
  · subst hij
    rw [Array.getElem?_setIfInBounds_self_of_lt hlt, he, Option.map_some, Option.map_some, hview]
  · rw [Array.getElem?_setIfInBounds_ne hij]

/-- two states of one fleet -/
structure Alike (f g : Fleet) : Prop where
  entities : g.entities.map Entity.layout = f.entities.map Entity.layout
  tagKeys : g.tagKeys = f.tagKeys
  slots : g.slots = f.slots
  rowsPerEpoch : g.rowsPerEpoch = f.rowsPerEpoch
  window : g.window = f.window
  interval : g.interval = f.interval
  intervalNanos : g.intervalNanos = f.intervalNanos
  epochs : g.epochs = f.epochs
  total : g.total = f.total

/-- a point with a row of a generator of an entity added, whatever the values are: the tags of the
entity come first, then those of the generator, which stand under the tag keys of its kind -/
structure Adds (e : Entity) (g : Generator) (time : Int64) (p row : Point) : Prop where
  measurement_eq : row.measurement = g.kind.name
  timestamp_eq : row.timestamp = time
  tags_eq : row.tags = p.tags ++ e.tags ++ g.tags
  tagKeys_eq : g.tags.map (·.key) = g.kind.tagKeys
  tagValues_eq : g.tags.map (·.value) = g.tagValues
  fields_eq : ∃ fields, row.fields = p.fields ++ fields ∧ fields.map (·.key) = g.kind.fieldKeys

/-- rows of one layout and one label add the same -/
theorem adds_rowOf {e e' : Entity} {g g' : Generator} (he : e'.layout = e.layout)
    (hg : g'.label = g.label) (time : Int64) (p : Point) (s : Stream) :
    Adds e g time p (rowOf e' g' time p s) where
  measurement_eq := congrArg Kind.name (Generator.kind_of_label hg)
  timestamp_eq := rfl
  tags_eq := by
    rw [rowOf, Entity.tags_of_layout he, Generator.tags_of_label hg]
  tagKeys_eq := g.keys_tags
  tagValues_eq := g.values_tags
  fields_eq := by
    refine ⟨g'.fields (g'.advance.run s).1.1, rfl, ?_⟩
    rw [Generator.keys_fields, Generator.kind_of_label hg]

namespace Alike
variable {f g h : Fleet}

theorem refl (f : Fleet) : Alike f f := ⟨rfl, rfl, rfl, rfl, rfl, rfl, rfl, rfl, rfl⟩

theorem symm (ha : Alike f g) : Alike g f :=
  ⟨ha.1.symm, ha.2.symm, ha.3.symm, ha.4.symm, ha.5.symm, ha.6.symm, ha.7.symm, ha.8.symm,
    ha.9.symm⟩

theorem trans (h₁ : Alike f g) (h₂ : Alike g h) : Alike f h :=
  ⟨h₂.1.trans h₁.1, h₂.2.trans h₁.2, h₂.3.trans h₁.3, h₂.4.trans h₁.4, h₂.5.trans h₁.5,
    h₂.6.trans h₁.6, h₂.7.trans h₁.7, h₂.8.trans h₁.8, h₂.9.trans h₁.9⟩

theorem size (ha : Alike f g) : g.entities.size = f.entities.size := by
  have hsize := congrArg Array.size ha.entities
  rwa [Array.size_map, Array.size_map] at hsize

theorem place (ha : Alike f g) (i : UInt64) : g.place i = f.place i := by
  rw [Fleet.place, ha.size, ha.slots, ha.rowsPerEpoch, Fleet.place]

theorem epochTime (ha : Alike f g) (k : UInt64) : g.epochTime k = f.epochTime k := by
  rw [Fleet.epochTime, ha.window, ha.intervalNanos, Fleet.epochTime]

/-- an entity keeps its place and its layout -/
theorem entity (ha : Alike f g) {i : Nat} {e : Entity} (he : f.entities[i]? = some e) :
    ∃ e', g.entities[i]? = some e' ∧ e'.layout = e.layout := by
  have hmap : (g.entities.map Entity.layout)[i]? = some e.layout := by
    rw [ha.entities, Array.getElem?_map, he, Option.map_some]
  rw [Array.getElem?_map] at hmap
  exact Option.map_eq_some_iff.1 hmap

/-- counters and templates may be anything -/
theorem counters (f : Fleet) (made values queries written : UInt64) (ts : List Template) :
    Alike f { f with
      made := made, values := values, queries := queries, written := written, templates := ts } :=
  ⟨rfl, rfl, rfl, rfl, rfl, rfl, rfl, rfl, rfl⟩

theorem count (f : Fleet) : Alike f f.count := counters f _ _ _ _ _

theorem setWritten (f : Fleet) (c : UInt64) : Alike f (f.setWritten c) := counters f _ _ _ _ _

/-- an entity of the same layout may be put in the place of another one -/
theorem put {i : Nat} {e e' : Entity} (he : f.entities[i]? = some e)
    (hlayout : e'.layout = e.layout) : Alike f (f.put i e') :=
  ⟨map_put Entity.layout he hlayout, rfl, rfl, rfl, rfl, rfl, rfl, rfl, rfl⟩

theorem store {i : Nat} {e e' : Entity} (he : f.entities[i]? = some e)
    (hlayout : e'.layout = e.layout) (n : Nat) : Alike f (f.store i e' n) :=
  (put he hlayout).trans (counters _ _ _ _ _ _)

end Alike

/-! ## the next row of a state -/

section
variable {f g : Fleet}

/-- **The next row of a state**: below the total it is the row of the place of its number, and what
is left is a state of the same fleet. -/
theorem Alike.next_adds (ha : Alike f g)
    (hlt : g.made.toNat < f.total.toNat) {e : Entity} {gen : Generator}
    (he : f.entities[(f.place g.made).entity]? = some e)
    (hgen : e.generators[(f.place g.made).slot]? = some gen) (p : Point) (s : Stream) :
    ∃ row h s', (g.next p).run s = ((g.made + 1, row, h), s') ∧
      Adds e gen (f.epochTime (f.place g.made).epoch) p row ∧ Alike f h ∧
      h.made = g.made + 1 ∧ h.values = g.values + gen.kind.fieldKeys.length.toUInt64 := by
  have htotal := f.total.toNat_lt_size
  have hpast : ¬ g.total < g.made + 1 := by
    rw [ha.total, UInt64.lt_iff_toNat_lt, Word.toNat_succ (by omega)]
    omega
  obtain ⟨e', he', hlayout⟩ := ha.entity he
  have hticked := (e'.layout_advanceTo (f.place g.made).epoch g.interval).trans hlayout
  obtain ⟨gen', hgen', hlabel⟩ := Entity.generator_of_layout hticked hgen
  refine ⟨_, _, _, next_row hpast (ha.place g.made) he' hgen' p s, ?_, ?_, rfl, ?_⟩
  · rw [ha.epochTime]
    exact adds_rowOf hlayout hlabel _ p s
  · have hcount : g.count.entities[(f.place g.made).entity]? = some e' := he'
    refine (ha.trans (Alike.count g)).trans (Alike.store hcount ?_ _)
    rw [Entity.layout_after hgen', Entity.layout_advanceTo]
  · rw [← Generator.kind_of_label hlabel]
    rfl

/-- past the last row a state only counts the call -/
theorem Alike.next_counts (ha : Alike f g) (hle : f.total.toNat ≤ g.made.toNat)
    (hmade : g.made.toNat + 1 < UInt64.size) (p : Point) (s : Stream) :
    (g.next p).run s = ((g.made + 1, p, g.count), s) := by
  refine next_past ?_ p s
  rw [ha.total, UInt64.lt_iff_toNat_lt, Word.toNat_succ hmade]
  omega

end

/-! ## any call of `next` -/

theorem rowAt_of_missing {f : Fleet} {spot : Place}
    (h : (f.entities[spot.entity]?).bind
      (fun e => (e.advanceTo spot.epoch f.interval).generators[spot.slot]?) = none) (p : Point) :
    f.rowAt spot p = return (p, f) := by
  unfold rowAt
  cases he : f.entities[spot.entity]? with
  | none => rfl
  | some e =>
    rw [he, Option.bind_some] at h
    simp only
    rw [h]

/-- what a call of `next` leaves: only the number moves, or a row of an entity is stored as well -/
theorem next_cases (f : Fleet) (p : Point) (s : Stream) :
    ((f.next p).run s).1.2.2 = f.count ∨
      ∃ i e e' n, f.entities[i]? = some e ∧ Entity.Reported f.interval s e e' ∧
        ((f.next p).run s).1.2.2 = f.count.store i e' n := by
  by_cases hpast : f.total < f.made + 1
  · exact .inl (by rw [next_past hpast])
  cases hfind : (f.entities[(f.place f.made).entity]?).bind
      (fun e => (e.advanceTo (f.place f.made).epoch f.interval).generators[(f.place f.made).slot]?)
    with
  | none =>
    have hcount : f.count.rowAt (f.place f.made) p = return (p, f.count) :=
      @rowAt_of_missing f.count _ hfind p
    refine .inl ?_
    rw [next_eq, if_neg hpast, hcount]
    rfl
  | some g =>
    obtain ⟨e, he, hg⟩ := Option.bind_eq_some_iff.1 hfind
    exact .inr ⟨_, e, _, _, he, ⟨_, _, g, hg, rfl⟩, by rw [next_row hpast rfl he hg]⟩

theorem alike_next (f : Fleet) (p : Point) (s : Stream) : Alike f ((f.next p).run s).1.2.2 := by
  rcases next_cases f p s with h | ⟨i, e, e', n, he, hreported, h⟩
  · rw [h]
    exact Alike.count f
  · have hcount : f.count.entities[i]? = some e := he
    rw [h]
    exact (Alike.count f).trans (Alike.store hcount hreported.layout_eq n)

theorem written_next (f : Fleet) (p : Point) (s : Stream) :
    ((f.next p).run s).1.2.2.written = f.written := by
  rcases next_cases f p s with h | ⟨i, e, e', n, -, -, h⟩ <;> rw [h] <;> rfl

/-- what rows leave alone in every entity, a call of `next` leaves alone in a fleet -/
theorem map_next {α : Type} {view : Entity → α}
    (hview : ∀ {interval s e e'}, Entity.Reported interval s e e' → view e' = view e)
    (f : Fleet) (p : Point) (s : Stream) :
    ((f.next p).run s).1.2.2.entities.map view = f.entities.map view := by
  rcases next_cases f p s with h | ⟨i, e, e', n, he, hreported, h⟩
  · rw [h]
    rfl
  · have hcount : f.count.entities[i]? = some e := he
    rw [h]
    exact map_put view hcount (hview hreported)

end Fleet

end Telemetry
