import Telemetry.Proofs.Entity.Fresh
import Telemetry.Proofs.Generator.Schema

/-!
# The rows of one generator

A generator adds the same columns to every point, whatever has happened to it and whatever the point
holds.

* `Event`, `after`      time passes or a row is made, and a generator after some events;
* `after_keeps`         what ticks and rows keep, any events keep;
* `label_after`         no run of events changes the kind or the values of the tags;
* `row`, `number?_row`  the next row by itself, and how to look up a number in it;
* `defect?_eq_none`     a row is complete if it has a name and a field, and no key is empty;
* `rows_keep_schema`    the rows of a generator from its making on.
-/

namespace Telemetry

open Telemetry.Random

theorem Point.defect?_eq_none {p : Point} (hname : p.measurement ≠ "") (hfields : p.fields ≠ [])
    (htagKeys : "" ∉ p.tagKeys) (hfieldKeys : "" ∉ p.fieldKeys) : p.defect? = none := by
  have hmeasurement : p.measurement.isEmpty = false := by simp [hname]
  have htags : p.tags.findSome? Tag.defect? = none := by
    rw [List.findSome?_eq_none_iff]
    intro t ht
    have hkey : t.key ≠ "" := fun h => htagKeys (h ▸ List.mem_map_of_mem ht)
    simp [Tag.defect?, hkey]
  have hvalues : p.fields.findSome? Field.defect? = none := by
    rw [List.findSome?_eq_none_iff]
    intro f hf
    have hkey : f.key ≠ "" := fun h => hfieldKeys (h ▸ List.mem_map_of_mem hf)
    simp [Field.defect?, hkey]
  have hsome : p.fields.isEmpty = false := List.isEmpty_eq_false_iff.2 hfields
  rw [defect?, hmeasurement, hsome, htags, hvalues]
  rfl

/-- the whole number that the first field with a key holds -/
def Point.number? (p : Point) (key : String) : Option Nat :=
  ((p.field? key).bind FieldValue.asUnsigned?).map UInt64.toNat

namespace Kind
variable (kind : Kind)

theorem name_ne_empty : kind.name ≠ "" := by
  cases kind <;> decide

theorem fieldKeys_ne_nil : kind.fieldKeys ≠ [] := by
  cases kind <;> decide

theorem nodup_fieldKeys : kind.fieldKeys.Nodup := by
  cases kind <;> decide

theorem empty_notMem_tagKeys : "" ∉ kind.tagKeys := by
  cases kind <;> decide

theorem empty_notMem_fieldKeys : "" ∉ kind.fieldKeys := by
  cases kind <;> decide

end Kind

namespace Generator

/-! ## events -/

/-- what happens to a generator -/
inductive Event where
  /-- some time passes -/
  | tick (interval : Duration)
  /-- a row is added to a point -/
  | row (p : Point) (s : Stream)

/-- the generator after an event -/
def happen (g : Generator) : Event → Generator
  | .tick interval => g.tick interval
  | .row p s => ((g.emit p).run s).1.2.2

theorem happen_row (g : Generator) (p : Point) (s : Stream) :
    g.happen (.row p s) = (g.advance.run s).1.2 := by
  rw [happen, emit_run]

/-- the generator after some events in order -/
def after (g : Generator) (events : List Event) : Generator := events.foldl happen g

theorem after_concat (g : Generator) (events : List Event) (e : Event) :
    g.after (events ++ [e]) = (g.after events).happen e :=
  List.foldl_concat ..

/-- what holds of the states of one kind, and is kept by ticks and rows, any events keep -/
theorem after_keeps {α : Type} (make : α → Generator) (P : α → Prop)
    (htick : ∀ x interval, P x → ∃ y, (make x).tick interval = make y ∧ P y)
    (hrow : ∀ x s, P x → ∃ y, ((make x).advance.run s).1.2 = make y ∧ P y) {x : α} (h : P x)
    (events : List Event) : ∃ y, (make x).after events = make y ∧ P y := by
  induction events generalizing x with
  | nil => exact ⟨x, rfl, h⟩
  | cons e events ih =>
    have hstep : ∃ y, (make x).happen e = make y ∧ P y := by
      cases e with
      | tick interval => exact htick x interval h
      | row p s =>
        rw [happen_row]
        exact hrow x s h
    obtain ⟨y, hy, hP⟩ := hstep
    show ∃ z, ((make x).happen e).after events = make z ∧ P z
    rw [hy]
    exact ih hP

theorem label_happen (g : Generator) (e : Event) : (g.happen e).label = g.label := by
  cases e with
  | tick interval => exact label_tick interval g
  | row p s =>
    rw [happen_row]
    exact label_advance g s

theorem label_after (g : Generator) (events : List Event) : (g.after events).label = g.label := by
  induction events generalizing g with
  | nil => rfl
  | cons e events ih =>
    show ((g.happen e).after events).label = g.label
    rw [ih, label_happen]

/-! ## rows -/

theorem kind_new (kind : Kind) (start : Int64) (o : Overrides) (a : Attributes) :
    ((new kind start o).run a).1.kind = kind :=
  (always_new kind start o a).1

/-- the next row by itself -/
def row (g : Generator) (s : Stream) : Point := ((g.emit {}).run s).1.2.1

theorem fields_row (g : Generator) (s : Stream) :
    (g.row s).fields = g.fields (g.advance.run s).1.1 := by
  rw [row, emit_run]
  exact List.nil_append _

/-- into any point, the fields of the row are added behind -/
theorem fields_emit (g : Generator) (p : Point) (s : Stream) :
    ((g.emit p).run s).1.2.1.fields = p.fields ++ (g.row s).fields := by
  rw [fields_row, emit_run]

/-- keys that differ find their own value -/
theorem find?_zipWith {keys : List String} {values : List FieldValue} {key : String}
    {value : FieldValue} (hkeys : keys.Nodup) {i : Nat} (hkey : keys[i]? = some key)
    (hvalue : values[i]? = some value) :
    (List.zipWith Field.mk keys values).find? (·.key == key) = some ⟨key, value⟩ := by
  induction i generalizing keys values with
  | zero =>
    cases keys with
    | nil => exact nomatch hkey
    | cons k keys =>
      cases values with
      | nil => exact nomatch hvalue
      | cons v values =>
        obtain rfl := Option.some.inj hkey
        obtain rfl := Option.some.inj hvalue
        exact List.find?_cons_of_pos (beq_self_eq_true k)
  | succ i ih =>
    cases keys with
    | nil => exact nomatch hkey
    | cons k keys =>
      cases values with
      | nil => exact nomatch hvalue
      | cons v values =>
        rw [List.getElem?_cons_succ] at hkey hvalue
        obtain ⟨hhead, htail⟩ := List.nodup_cons.1 hkeys
        have hne : k ≠ key := fun h => hhead (h ▸ List.mem_of_getElem? hkey)
        refine (List.find?_cons_of_neg ?_).trans (ih htail hkey hvalue)
        exact fun h => hne (beq_iff_eq.1 h)

/-- a whole number of a row stands under the key in its place -/
theorem number?_row (g : Generator) (s : Stream) {i : Nat} {key : String} {n : UInt64}
    (hkey : g.kind.fieldKeys[i]? = some key)
    (hvalue : (g.advance.run s).1.1[i]? = some (.unsigned n)) :
    (g.row s).number? key = some n.toNat := by
  have hfind : (g.row s).fields.find? (·.key == key) = some ⟨key, .unsigned n⟩ := by
    rw [fields_row]
    exact find?_zipWith g.kind.nodup_fieldKeys hkey hvalue
  rw [Point.number?, Point.field?, hfind]
  rfl

/-- a row of a key-value store: the uptime, the five totals, and seven values drawn for the row -/
theorem Redis.values_advance (g : Redis) (s : Stream) : ∃ rates input output sys user,
    (g.advance.run s).1.1
      = (.unsigned g.uptime ::
          (addAll g.stats (amounts (draw64.run s).1)).toList.map fun c => .unsigned c.value)
        ++ [rates, input, output,
          .unsigned (g.clients.advance.run (draw64.run (draw64.run s).2).2).1.1,
          .unsigned (g.memory.advance.run
            (g.clients.advance.run (draw64.run (draw64.run s).2).2).2).1.1, sys, user] :=
  ⟨_, _, _, _, _, rfl⟩

/-- into an empty point, a complete row -/
theorem defect?_emit (g : Generator) (s : Stream) : ((g.emit {}).run s).1.2.1.defect? = none := by
  rw [emit_run]
  refine Point.defect?_eq_none g.kind.name_ne_empty ?_ ?_ ?_
  · intro hnil
    have hkeys := g.keys_fields s
    rw [show g.fields (g.advance.run s).1.1 = [] from hnil] at hkeys
    exact g.kind.fieldKeys_ne_nil hkeys.symm
  · show "" ∉ g.tags.map (·.key)
    rw [g.keys_tags]
    exact g.kind.empty_notMem_tagKeys
  · show "" ∉ (g.fields (g.advance.run s).1.1).map (·.key)
    rw [g.keys_fields]
    exact g.kind.empty_notMem_fieldKeys

/-- **The rows of a generator.**  Whatever happens to it, there always is a next row.  It has the name
of the kind; what the point had stays in front; and behind it come the tags, which are the same in
every row of the generator, and fields with the keys and the types of the kind. -/
theorem rows_keep_schema (kind : Kind) (start : Int64) (o : Overrides) (a : Attributes) :
    ∃ own : List Tag, own.map (·.key) = kind.tagKeys ∧
      ∀ (events : List Event) (p : Point) (s : Stream),
        (((new kind start o).run a).1.after events).kind = kind ∧
        (∃ (added : List Field) (s' : Stream),
          ((((new kind start o).run a).1.after events).emit p).run s
            = ((true,
                { p with
                  measurement := kind.name
                  tags := p.tags ++ own
                  fields := p.fields ++ added },
                ((new kind start o).run a).1.after (events ++ [.row p s])), s') ∧
          added.map (·.key) = kind.fieldKeys ∧
          added.map (·.value.typeName) = kind.fieldTypes) ∧
        (((((new kind start o).run a).1.after events).emit {}).run s).1.2.1.defect? = none := by
  have hnew := kind_new kind start o a
  generalize ((new kind start o).run a).1 = g at hnew ⊢
  subst hnew
  refine ⟨g.tags, g.keys_tags, ?_⟩
  intro events p s
  have hlabel := g.label_after events
  have hkind := kind_of_label hlabel
  have hkeys := (g.after events).keys_fields s
  have htypes := (g.after events).types_fields s
  have hdefect := (g.after events).defect?_emit s
  rw [hkind] at hkeys htypes
  refine ⟨hkind, ⟨_, ((g.after events).advance.run s).2, ?_, hkeys, htypes⟩, hdefect⟩
  rw [after_concat, happen, emit_run, hkind, tags_of_label hlabel]

end Generator

end Telemetry
