import Telemetry.Entity.Device
import Telemetry.Entity.Host
import Telemetry.Proofs.Random.Always

/-!
# New hosts and devices

What a host or a device is when it has just been built, whatever was chosen for it.

* `Generator.Exact`      the numbers that a new generator starts with, as whole numbers: none of them
                         has been cut to a word;
* `Generator.always_new` a new generator is of the kind that was asked for, and exact;
* `Entity.numbered_of_lt`, `Entity.numbered_of_le`  an entity whose number is a word, and one whose
                         number is none;
* `Entity.Fresh`         an entity with a number, the tags that follow from it and one generator per
                         kind, with nothing done so far;
* `Host.always_ofNumber`, `Device.always_ofNumber`  such are the hosts and the devices of a number.
-/

namespace Telemetry

open Telemetry.Random

/-! ## generators -/

namespace Generator

/-- the numbers that a new generator starts with, as whole numbers -/
def Exact (start : Int64) : Generator → Prop
  | .disk g => ∃ gibibytes ∈ [256, 512, 1024, 2048], g.total.toNat = gibibytes * 1073741824
  | .kernel g => ∃ uptime : Nat, uptime < 2592000 ∧
      g.bootTime.toInt = start.toInt.tdiv 1000000000 - uptime
  | .mem g => ∃ gibibytes ∈ [8, 16, 32, 64], g.total.toNat = gibibytes * 1073741824
  | .redis g => ∃ uptime, uptime < 604800 ∧ g.uptimeNanos.value.toNat = uptime * 1000000000
  | _ => True

variable {start : Int64} {o : Overrides}

/-- a listed number of gibibytes, in bytes -/
theorem exists_gibibytes {sizes : List UInt64} {size : UInt64} (hsize : size ∈ sizes)
    (hsmall : ∀ x ∈ sizes, x.toNat < 17179869184) :
    ∃ gibibytes ∈ sizes.map UInt64.toNat, (size * 1073741824).toNat = gibibytes * 1073741824 := by
  have hlt := hsmall size hsize
  refine ⟨size.toNat, List.mem_map_of_mem hsize, ?_⟩
  rw [UInt64.toNat_mul]
  exact Nat.mod_eq_of_lt (show size.toNat * 1073741824 < 18446744073709551616 by omega)

theorem always_disk : Always (fun g => Exact start (.disk g)) (Disk.new o) := by
  refine (always_choose (256 : UInt64) [512, 1024, 2048]).bind fun size hsize => ?_
  exact fun _ => exists_gibibytes hsize (by simp)

theorem always_mem : Always (fun g => Exact start (.mem g)) Mem.new := by
  refine (always_choose (8 : UInt64) [16, 32, 64]).bind fun size hsize => ?_
  exact fun _ => exists_gibibytes hsize (by simp)

theorem always_redis : Always (fun g => Exact start (.redis g)) (Redis.new o) := by
  refine (always_within (Nat.zero_le 99999)).bind fun n _ => ?_
  refine (always_within (Nat.zero_le _)).bind fun uptime huptime => ?_
  have hlt : uptime < 604800 := Nat.lt_succ_of_le huptime.2
  have hword : uptime < UInt64.size := Nat.lt_trans hlt (by decide)
  have hexact : (uptime.toUInt64 * Redis.nanosPerSecond).toNat = uptime * 1000000000 := by
    rw [UInt64.toNat_mul, UInt64.toNat_ofNat_of_lt' hword]
    exact Nat.mod_eq_of_lt (show uptime * 1000000000 < 18446744073709551616 by omega)
  exact fun _ => ⟨uptime, hlt, hexact⟩

/-- the seconds that a kernel has been up before the first row -/
def Kernel.uptime (a : Attributes) : Nat := ((within 0 (Kernel.longestUptime - 1)).run a).1

theorem Kernel.uptime_lt (a : Attributes) : Kernel.uptime a < 2592000 :=
  Nat.lt_succ_of_le (always_within (Nat.zero_le _) a).2

/-- whole seconds of the start, rounded towards zero, less the uptime -/
theorem Kernel.toInt_bootTime (start : Int64) (a : Attributes) :
    ((Kernel.new start).run a).1.bootTime.toInt
      = start.toInt.tdiv 1000000000 - Kernel.uptime a := by
  have hlt := Kernel.uptime_lt a
  show (start / Kernel.nanosPerSecond - Int64.ofNat (Kernel.uptime a)).toInt = _
  have hquotient : (start / Kernel.nanosPerSecond).toInt = start.toInt.tdiv 1000000000 :=
    Int64.toInt_div_of_ne_right _ _ (by decide)
  -- seconds are far from the ends of the word, so the uptime can be taken off them
  have habs : (start.toInt.tdiv 1000000000).natAbs ≤ 9223372036 := by
    have hle := start.le_toInt
    have hge := start.toInt_lt
    rw [Int.natAbs_tdiv]
    show start.toInt.natAbs / 1000000000 ≤ 9223372036
    omega
  rw [Int64.toInt_sub, hquotient, Int64.toInt_ofNat_of_lt (by omega)]
  exact Int.bmod_eq_of_le (by omega) (by omega)

theorem always_kernel : Always (fun g => Exact start (.kernel g)) (Kernel.new start) :=
  fun a => ⟨Kernel.uptime a, Kernel.uptime_lt a, Kernel.toInt_bootTime start a⟩

theorem always_new (kind : Kind) (start : Int64) (o : Overrides) :
    Always (fun g => g.kind = kind ∧ g.Exact start) (new kind start o) := by
  cases kind with
  | cpu => exact always_pure ⟨rfl, trivial⟩
  | disk => exact always_disk.map fun g hg => ⟨rfl, hg⟩
  | diskIo => exact fun _ => ⟨rfl, trivial⟩
  | kernel => exact always_kernel.map fun g hg => ⟨rfl, hg⟩
  | mem => exact always_mem.map fun g hg => ⟨rfl, hg⟩
  | net => exact always_pure ⟨rfl, trivial⟩
  | nginx => exact fun _ => ⟨rfl, trivial⟩
  | redis => exact always_redis.map fun g hg => ⟨rfl, hg⟩
  | cityUtility => exact fun _ => ⟨rfl, trivial⟩

end Generator

/-! ## entities -/

section
variable {index offset : UInt64} (make : UInt64 → Choice Entity)

theorem Entity.numbered_of_lt (h : index.toNat + offset.toNat < UInt64.size) :
    numbered index offset make = OptionT.lift (make (index + offset)) := by
  rw [numbered, Word.add?_eq_some h]

theorem Entity.numbered_of_le (h : UInt64.size ≤ index.toNat + offset.toNat) :
    numbered index offset make = failure := by
  rw [numbered, Word.add?_eq_none h]

end

/-- an entity that has just been built: its number, the tags that follow from the number in front of
those that were chosen, and one generator per kind -/
structure Entity.Fresh (keys : List String) (identity : List Tag) (kinds : List Kind)
    (start : Int64) (n : UInt64) (e : Entity) : Prop where
  index_eq : e.index = n
  ticked_eq : e.tickedEpoch = 0
  keys_eq : e.tagKeys = keys
  identity_begins : identity <+: e.tags
  kinds_eq : e.generators.map Generator.kind = kinds
  exact : ∀ g ∈ e.generators, g.Exact start

/-- generators for some kinds, in order -/
theorem Generator.always_mapM_new (kinds : List Kind) (start : Int64) (o : Overrides) :
    Always (fun gs : List Generator => gs.map Generator.kind = kinds ∧ ∀ g ∈ gs, g.Exact start)
      (kinds.mapM fun kind => Generator.new kind start o) := by
  refine (always_mapM fun kind _ => Generator.always_new kind start o).imp fun gs hgs => ?_
  induction hgs with
  | nil => exact ⟨rfl, by simp⟩
  | cons hg _ ih =>
    obtain ⟨hkind, hexact⟩ := hg
    obtain ⟨hkinds, hall⟩ := ih
    exact ⟨by rw [List.map_cons, hkind, hkinds], List.forall_mem_cons.2 ⟨hexact, hall⟩⟩

namespace Host

theorem keys_attributes : Always (fun chosen : List Tag => chosen.map (·.key) =
    ["os", "arch", "team", "service", "service_version", "service_environment"]) attributes :=
  fun _ => rfl

theorem keys_identity (n : Nat) :
    (identity n).map (·.key) = ["hostname", "region", "datacenter", "rack"] := rfl

theorem always_ofNumber (n : UInt64) (start : Int64) (kinds : List Kind) (o : Overrides) :
    Always (Entity.Fresh tagKeys (identity n.toNat) kinds start n) (ofNumber n start kinds o) := by
  refine keys_attributes.bind fun chosen hchosen => ?_
  refine (Generator.always_mapM_new kinds start o).bind fun gs hgs => always_pure ?_
  refine ⟨rfl, rfl, ?_, List.prefix_append _ _, hgs.1, hgs.2⟩
  show (identity n.toNat ++ chosen).map (·.key) = tagKeys
  rw [List.map_append, hchosen, keys_identity]
  rfl

end Host

namespace Device

theorem keys_identity (regions : RegionTable) (perSite n : Nat) :
    (identity regions perSite n).map (·.key)
      = ["province", "city", "county", "site_id", "device_id"] := rfl

theorem always_ofNumber (n : UInt64) (start : Int64) (perSite : UInt64) (regions : RegionTable)
    (o : Overrides) :
    Always (Entity.Fresh tagKeys (identity regions perSite.toNat n.toNat) [.cityUtility] start n)
      (ofNumber n start perSite regions o) := by
  refine (always_choose "abb" ["delta", "siemens", "teld"]).bind fun vendor _ => ?_
  refine (Generator.always_new .cityUtility start o).bind fun g hg => always_pure ?_
  refine ⟨rfl, rfl, ?_, List.prefix_append _ _, ?_, ?_⟩
  · show (identity regions perSite.toNat n.toNat ++ [Tag.mk "vendor" vendor]).map (·.key) = tagKeys
    rw [List.map_append, keys_identity]
    rfl
  · exact congrArg (fun kind => [kind]) hg.1
  · intro g' hg'
    obtain rfl := List.mem_singleton.1 hg'
    exact hg.2

/-- the area code of a site, where there is one, is in the table -/
theorem siteCode_mem {codes : List UInt32} (h : codes ≠ []) (site : Nat) :
    codes[site % codes.length]? = some (siteCode codes site) := by
  have hlt : site % codes.length < codes.length := Nat.mod_lt _ (List.length_pos_iff.2 h)
  rw [siteCode, List.getElem?_eq_getElem hlt]
  rfl

end Device

end Telemetry
