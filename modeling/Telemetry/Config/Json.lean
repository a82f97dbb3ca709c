import Telemetry.Config.Basic
import Telemetry.Time.Json

/-!
# Configurations in JSON

* workloads and kinds are choices without content;
* overrides are an object of objects, in which a later member takes the place of an earlier one with
  the same key, whole inner objects included;
* a configuration is a record in which every field has a default.
-/

namespace Telemetry

/-- the JSON form of a workload -/
def Workload.toJson (w : Workload) : Json := .string w.name

/-- the workload of a JSON form -/
def Workload.ofJson? (j : Json) : Option Workload := j.choiceName?.bind Workload.ofCode?

/-- the JSON form of a kind -/
def Kind.toJson (k : Kind) : Json := .string k.code

/-- the kind of a JSON form -/
def Kind.ofJson? (j : Json) : Option Kind := j.choiceName?.bind Kind.ofCode?

namespace Overrides

/-- the JSON form of overrides -/
def toJson (o : Overrides) : Json :=
  .object (o.entries.map fun (m, tags) => (m, .object (tags.map fun (t, v) => (t, .string v))))

/-- members, each read on its own; the last one with a key wins -/
def readMembers? {α : Type} (read : Json → Option α) : Json → Option (List (String × α))
  | .object members => do
    let entries ← members.mapM fun (k, j) => do return (k, ← read j)
    return entries.foldl (fun table (k, v) => put k v table) []
  | _ => none

/-- the overrides of a JSON form -/
def ofJson? (j : Json) : Option Overrides :=
  (readMembers? (readMembers? Json.string?) j).map Overrides.mk

end Overrides

namespace Config

/-- the names of the settings, in order -/
def fieldNames : List String :=
  ["workload", "start", "end", "interval", "entity_count", "offset", "kinds", "devices_per_site",
    "axis", "points", "overrides"]

/-- the JSON form of a configuration -/
def toJson (c : Config) : Json :=
  .object <| fieldNames.zip [
    c.workload.toJson, c.start.toJson, c.stop.toJson, c.interval.toJson,
    .ofNat c.entityCount.toNat, .ofNat c.offset.toNat, .array (c.kinds.map Kind.toJson),
    .ofNat c.devicesPerSite.toNat, .ofNat c.axis.toNat, .ofNat c.points.toNat,
    c.overrides.toJson]

/-- the configuration of a JSON form -/
def ofJson? (j : Json) : Option Config := do
  let r ← Json.Record.ofJson? false fieldNames j
  let d : Config := {}
  return {
    workload := ← r.fieldD "workload" Workload.ofJson? d.workload
    start := ← r.fieldD "start" Instant.ofJson? d.start
    stop := ← r.fieldD "end" Instant.ofJson? d.stop
    interval := ← r.fieldD "interval" Duration.ofJson? d.interval
    entityCount := ← r.fieldD "entity_count" Json.unsigned? d.entityCount
    offset := ← r.fieldD "offset" Json.unsigned? d.offset
    kinds := ← r.fieldD "kinds" (Json.items? Kind.ofJson?) d.kinds
    devicesPerSite := ← r.fieldD "devices_per_site" Json.unsigned? d.devicesPerSite
    axis := ← r.fieldD "axis" Json.unsigned? d.axis
    points := ← r.fieldD "points" Json.unsigned? d.points
    overrides := ← r.fieldD "overrides" Overrides.ofJson? d.overrides }

/-- the configuration that a JSON text holds -/
def read? (s : String) : Option Config := (Json.read? s).bind ofJson?

end Config

end Telemetry
