import Telemetry.Proofs.Generator.Values

/-!
# The schema of a generator

What stays the same over the life of a generator, and what a row of it looks like.

* `label`           the kind of a generator and the values of its tags: ticks and rows keep it;
* `Kind.fieldTypes` the types of the fields of a row, which depend on the kind only;
* `keys_tags`, `values_tags`  the tags stand under the tag keys of the kind;
* `types_advance`   a row has one value of its type per field key of the kind.
-/

namespace Telemetry

open Telemetry.Random

/-- the names of the types of the field values of a row, in the order of the field keys -/
def Kind.fieldTypes : Kind → List String
  | .cpu => List.replicate 10 "float"
  | .disk => ["unsigned", "unsigned", "unsigned", "float", "unsigned", "unsigned", "unsigned"]
  | .diskIo => List.replicate 7 "unsigned"
  | .kernel => "integer" :: List.replicate 5 "unsigned"
  | .mem => List.replicate 6 "unsigned" ++ List.replicate 3 "float"
  | .net => List.replicate 8 "unsigned"
  | .nginx => List.replicate 7 "unsigned"
  | .redis =>
    "unsigned" :: List.replicate 5 "unsigned"
      ++ ["unsigned", "float", "float", "unsigned", "unsigned", "float", "float"]
  | .cityUtility => List.replicate 5 "float" ++ ["boolean"]

theorem Kind.length_fieldTypes (kind : Kind) :
    kind.fieldTypes.length = kind.fieldKeys.length := by
  cases kind <;> rfl

namespace Generator

/-- the kind and the tag values, which no row and no tick changes -/
def label (g : Generator) : Kind × List String := (g.kind, g.tagValues)

theorem kind_of_label {g g' : Generator} (h : g'.label = g.label) : g'.kind = g.kind :=
  congrArg Prod.fst h

theorem tags_of_label {g g' : Generator} (h : g'.label = g.label) : g'.tags = g.tags := by
  have hkind : g'.kind = g.kind := congrArg Prod.fst h
  have hvalues : g'.tagValues = g.tagValues := congrArg Prod.snd h
  rw [tags, tags, hkind, hvalues]

theorem keys_tags (g : Generator) : g.tags.map (·.key) = g.kind.tagKeys := by
  cases g <;> rfl

theorem values_tags (g : Generator) : g.tags.map (·.value) = g.tagValues := by
  cases g <;> rfl

theorem Redis.port_tick (g : Redis) (interval : Duration) : (g.tick interval).port = g.port := by
  unfold tick
  rfl

theorem Redis.server_tick (g : Redis) (interval : Duration) :
    (g.tick interval).server = g.server := by
  unfold tick
  rfl

theorem label_tick (interval : Duration) (g : Generator) : (g.tick interval).label = g.label := by
  cases g with
  | redis g =>
    show (Kind.redis, [(g.tick interval).port, (g.tick interval).server]) = _
    rw [Redis.port_tick, Redis.server_tick]
    rfl
  | cityUtility g => rfl
  | _ => rfl

theorem pairs_zipWith (keys : List String) (values : List FieldValue) :
    (List.zipWith Field.mk keys values).map (fun f => (f.key, f.value)) = keys.zip values := by
  rw [List.map_zipWith]
  rfl

theorem keys_zipWith {keys : List String} {values : List FieldValue}
    (h : keys.length = values.length) :
    (List.zipWith Field.mk keys values).map (·.key) = keys := by
  have hpairs := congrArg (List.map Prod.fst) (pairs_zipWith keys values)
  rw [List.map_map, List.map_fst_zip (Nat.le_of_eq h)] at hpairs
  exact hpairs

theorem values_zipWith {keys : List String} {values : List FieldValue}
    (h : keys.length = values.length) :
    (List.zipWith Field.mk keys values).map (·.value) = values := by
  have hpairs := congrArg (List.map Prod.snd) (pairs_zipWith keys values)
  rw [List.map_map, List.map_snd_zip (Nat.le_of_eq h.symm)] at hpairs
  exact hpairs

/-! ## one row of each kind -/

theorem types_counters {n : Nat} (counters : Vector Counter n) :
    (counters.toList.map fun c => FieldValue.unsigned c.value).map FieldValue.typeName
      = List.replicate n "unsigned" := by
  rw [List.map_map]
  show counters.toList.map (fun _ => "unsigned") = _
  rw [List.map_const', Vector.length_toList]

theorem DiskIo.types_advance (g : DiskIo) (s : Stream) :
    (g.advance.run s).1.1.map FieldValue.typeName = Kind.diskIo.fieldTypes :=
  types_counters (addAll g.counters (amounts _))

theorem Kernel.types_advance (g : Kernel) (s : Stream) :
    (g.advance.run s).1.1.map FieldValue.typeName = Kind.kernel.fieldTypes :=
  congrArg ("integer" :: ·) (types_counters (addAll g.counters (amounts _)))

theorem Net.types_advance (g : Net) (s : Stream) :
    (g.advance.run s).1.1.map FieldValue.typeName = Kind.net.fieldTypes :=
  types_counters (addAll g.counters (amounts _))

theorem Redis.types_advance (g : Redis) (s : Stream) :
    (g.advance.run s).1.1.map FieldValue.typeName = Kind.redis.fieldTypes := by
  show (_ :: List.map _ (addAll g.stats (amounts _)).toList ++ [_, _, _, _, _, _, _]).map _ = _
  rw [List.map_append, List.map_cons, types_counters]
  rfl

theorem Nginx.after_advance (g : Nginx) (s : Stream) :
    (g.advance.run s).1.2 = g.after (draw64.run s).1 := rfl

theorem Nginx.port_after (g : Nginx) (word : UInt64) : (g.after word).port = g.port := rfl

theorem Nginx.server_after (g : Nginx) (word : UInt64) : (g.after word).server = g.server := rfl

/-! ## rows -/

section
variable (g : Generator) (s : Stream)

/-- the types of a row are those of the kind, whatever the generator has done before -/
theorem types_advance :
    (g.advance.run s).1.1.map FieldValue.typeName = g.kind.fieldTypes := by
  cases g with
  | cpu => rfl
  | disk g => rfl
  | diskIo g => exact g.types_advance s
  | kernel g => exact g.types_advance s
  | mem g => rfl
  | net g => exact g.types_advance s
  | nginx g => rfl
  | redis g => exact g.types_advance s
  | cityUtility g => rfl

/-- a row has one value per field key -/
theorem length_advance : (g.advance.run s).1.1.length = g.kind.fieldKeys.length := by
  rw [← Kind.length_fieldTypes, ← types_advance, List.length_map]

theorem kind_advance : (g.advance.run s).1.2.kind = g.kind := by
  cases g with
  | nginx g => exact show Kind.nginx = Kind.nginx from rfl
  | _ => rfl

theorem tagValues_advance : (g.advance.run s).1.2.tagValues = g.tagValues := by
  cases g with
  | cpu => rfl
  | disk g => rfl
  | diskIo g => rfl
  | kernel g => rfl
  | mem g => rfl
  | net g => rfl
  | nginx g =>
    show [(g.advance.run s).1.2.port, (g.advance.run s).1.2.server] = [g.port, g.server]
    rw [Nginx.after_advance, Nginx.port_after, Nginx.server_after]
  | redis g => rfl
  | cityUtility g => rfl

theorem label_advance : (g.advance.run s).1.2.label = g.label := by
  rw [label, kind_advance, tagValues_advance, label]

theorem keys_fields : (g.fields (g.advance.run s).1.1).map (·.key) = g.kind.fieldKeys :=
  keys_zipWith (g.length_advance s).symm

theorem types_fields :
    (g.fields (g.advance.run s).1.1).map (·.value.typeName) = g.kind.fieldTypes := by
  have hvalues : (g.fields (g.advance.run s).1.1).map (·.value) = (g.advance.run s).1.1 :=
    values_zipWith (g.length_advance s).symm
  have htypes := g.types_advance s
  rw [← hvalues, List.map_map] at htypes
  exact htypes

end

end Generator

end Telemetry
