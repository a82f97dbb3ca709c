import Telemetry.Proofs.Config.Acceptance

/-!
# Identity numbers

The identity number of an entity is the sum of its place in the fleet and the offset of the fleet.
No check looks at the sum; where it is no word, building the fleet is cut off.

* `Config.placed_of_valid`     valid settings of a fleet have a place for every entity;
* `Config.Numbered`            an entity with its exact number, and the tags that follow from it;
* `Config.exact_numbers_iff`   there is an answer exactly where the last number is a word, and then
                               every number is exact;
* `Config.lastTwo`             settings that are valid, whose second host has no number.
-/

namespace Telemetry.Config

open Telemetry.Random

section
variable {c : Config} {regions : RegionTable}

theorem exists_check_of_validate (hvalid : c.validate = .ok ()) : ∃ w, c.check = .ok w := by
  unfold validate at hvalid
  cases hcheck : c.check with
  | ok w => exact ⟨w, rfl⟩
  | error e =>
    rw [hcheck] at hvalid
    exact nomatch hvalid

theorem placed_of_valid (hfleet : c.workload ≠ .metaquery) (hvalid : c.validate = .ok ())
    (hcodes : regions.codes ≠ []) : c.Placed regions := by
  obtain ⟨w, hcheck⟩ := exists_check_of_validate hvalid
  obtain ⟨-, -, -, hsites⟩ := (fault?_eq_none_iff hfleet).1 (check_eq_ok_iff.1 hcheck).2
  exact ⟨hfleet, fun hcharge => ⟨hsites hcharge, hcodes⟩⟩

/-- entity number `i` of some settings: its number is exact, and its tags follow from it -/
structure Numbered (c : Config) (regions : RegionTable) (i : Nat) (e : Entity) : Prop where
  index_eq : e.index.toNat = c.offset.toNat + i
  identity_begins : c.identity regions (c.offset.toNat + i) <+: e.tags

/-- the entities of a fleet, whether or not its rows can be counted by epochs -/
theorem numbered_of_fleet {s : Attributes} {f : Fleet}
    (h : ((c.fleet regions).run.run s).1 = some (.ok f)) :
    f.entities.size = c.entityCount.toNat ∧
      ∀ (i : Nat) e, f.entities[i]? = some e → c.Numbered regions i e := by
  have hcomes := c.comes_fleet regions s
  rw [h] at hcomes
  generalize hmade : some (Except.ok f) = made at hcomes
  cases hcomes with
  | refused hcheck => exact nomatch hmade
  | unplaced hcheck hplaced fault => exact nomatch hmade
  | @built w hcheck hplaced =>
    have hoffset : c.offset.toNat + c.entityCount.toNat ≤ 2 ^ 64 := by
      refine Nat.le_of_not_lt fun hlong => ?_
      rw [(fleet_eq_none_iff s).2 ⟨⟨w, hcheck⟩, hplaced, hlong⟩] at h
      exact nomatch h
    obtain ⟨es, hrun, hlength, -, hes⟩ := answers_describes w hplaced hoffset s
    rw [hrun, Option.map_some, Option.some.injEq, eq_comm, mapError_eq_ok] at hmade
    obtain ⟨first, rest, step, span, -, -, -, -, -, -, -, rfl⟩ := Fleet.ofEntities_eq_ok hmade
    refine ⟨hlength, fun i e hi => ?_⟩
    rw [List.getElem?_toArray] at hi
    have hdescribes := hes i e hi
    exact ⟨hdescribes.index_eq, hdescribes.identity_begins⟩

/-- **Identity numbers.**  Valid settings of a fleet, over a table with an area code, have an answer
exactly where the number of the last entity is a word.  Where the answer is a fleet, it has all its
entities, each with its exact number and with the tags of that number. -/
theorem exact_numbers_iff (hfleet : c.workload ≠ .metaquery) (hvalid : c.validate = .ok ())
    (hcodes : regions.codes ≠ []) (s : Attributes) :
    ((∃ answer, ((c.fleet regions).run.run s).1 = some answer) ↔
      c.offset.toNat + c.entityCount.toNat ≤ 2 ^ 64) ∧
    ∀ f, ((c.fleet regions).run.run s).1 = some (.ok f) →
      f.entities.size = c.entityCount.toNat ∧
      ∀ (i : Nat) e, f.entities[i]? = some e → c.Numbered regions i e := by
  refine ⟨?_, fun f hf => numbered_of_fleet hf⟩
  have hnone : ((c.fleet regions).run.run s).1 = none ↔ (∃ w, c.check = .ok w) ∧
      c.Placed regions ∧ 2 ^ 64 < c.offset.toNat + c.entityCount.toNat := fleet_eq_none_iff s
  rw [← Option.ne_none_iff_exists', Ne, hnone, ← Nat.not_lt, not_iff_not]
  refine ⟨fun h => h.2.2, fun hlong => ?_⟩
  exact ⟨exists_check_of_validate hvalid, placed_of_valid hfleet hvalid hcodes, hlong⟩

end

/-- the default settings, whose numbers start at zero -/
theorem exact_numbers_iff_default :
    (({} : Config).workload ≠ .metaquery ∧ ({} : Config).validate = .ok () ∧
      RegionTable.builtIn.codes ≠ []) ∧
    ∃ f, ((({} : Config).fleet .builtIn).run.run ⟨0⟩).1 = some (.ok f) ∧
      f.entities.size = 100 ∧
      ∀ (i : Nat) e, f.entities[i]? = some e → ({} : Config).Numbered .builtIn i e := by
  have hfleet : ({} : Config).workload ≠ .metaquery := nofun
  have hvalid : ({} : Config).validate = .ok () := rfl
  have hcodes : RegionTable.builtIn.codes ≠ [] := nofun
  obtain ⟨f, hf⟩ := fleet_of_buildable ⟨0⟩ (by decide) (by decide) buildable_default
  exact ⟨⟨hfleet, hvalid, hcodes⟩, f, hf, (exact_numbers_iff hfleet hvalid hcodes ⟨0⟩).2 f hf⟩

/-! ## the last number -/

/-- two hosts, of which only the first has a number that is a word -/
def lastTwo : Config := { kinds := [.cpu], entityCount := 2, offset := 18446744073709551615 }

/-- the settings are valid and there are regions; but there is neither a fleet nor an error, whatever
is chosen -/
theorem not_exact_lastTwo :
    lastTwo.workload = .devops ∧ lastTwo.validate = .ok () ∧ RegionTable.builtIn.codes ≠ [] ∧
      ∀ s, ((lastTwo.fleet .builtIn).run.run s).1 = none := by
  refine ⟨rfl, rfl, nofun, fun s => (fleet_eq_none_iff s).2 ?_⟩
  have hvalid : lastTwo.validate = .ok () := rfl
  exact ⟨exists_check_of_validate hvalid, placed_of_valid nofun hvalid nofun, by decide⟩

end Telemetry.Config
