import Mathlib.Data.List.Nodup
import Telemetry.Proofs.Entity.Site
import Telemetry.Proofs.Fleet.Acceptance

/-!
# Fleets over consecutive identity numbers

The identity tags of an entity follow from its number alone.  So a fleet can be built in parts, by
whoever and with whatever else in it, and the parts together show what the whole shows.

* `Family`               fleets whose identity tags follow from the numbers in one way;
* `Family.Builds`        a fleet of such entities, from a number on;
* `Fleet.shown`          the values of some tags, entity by entity;
* `Consecutive`          entities that have consecutive numbers and the tags of these;
* `Consecutive.shown_eq` what such a fleet shows is a function of its numbers;
* `Family.name_inj`      the name of an entity determines its number;
* `Host.datacenter_mem`  a host stands in a data centre of its region;
* `fleets_split`         parts and wholes, names, data centres.
-/

namespace Telemetry

open Telemetry.Random

/-! ## tags in front -/

/-- a tag is found among the first tags, where no other of them has its key -/
theorem Entity.tag?_of_prefix {e : Entity} {tags : List Tag} {t : Tag} (h : tags <+: e.tags)
    (hnodup : (tags.map (·.key)).Nodup) (ht : t ∈ tags) : e.tag? t.key = some t.value := by
  have hfind : tags.find? (·.key == t.key) = some t := by
    obtain ⟨before, after, rfl⟩ := List.append_of_mem ht
    rw [List.map_append, List.map_cons, List.nodup_append] at hnodup
    refine List.find?_eq_some_iff_append.2 ⟨beq_self_eq_true _, before, after, rfl, ?_⟩
    intro other hother
    have hne := hnodup.2.2 other.key (List.mem_map_of_mem hother) t.key List.mem_cons_self
    rw [Bool.not_eq_true', beq_eq_false_iff_ne]
    exact hne
  obtain ⟨rest, hrest⟩ := h
  rw [Entity.tag?, ← hrest, List.find?_append, hfind]
  rfl

/-! ## hosts -/

namespace Host

theorem location_mem (n : Nat) : location n ∈ locations := by
  have hlt : n % locations.length < locations.length := Nat.mod_lt _ (by decide)
  rw [location, List.getElem?_eq_getElem hlt]
  exact List.getElem_mem hlt

/-- a host stands in a data centre of its region -/
theorem datacenter_mem (n : Nat) : datacenter n ∈ (location n).datacenters :=
  getD_mod_mem _ _ _

end Host

namespace Fleet

/-! ## families -/

/-- fleets whose identity tags follow from the numbers in one way -/
inductive Family where
  | hosts
  | devices (regions : RegionTable) (perSite : UInt64)

namespace Family

/-- the tags that follow from a number -/
def identity : Family → Nat → List Tag
  | hosts => Host.identity
  | devices regions perSite => Device.identity regions perSite.toNat

/-- their keys -/
def keys : Family → List String
  | hosts => ["hostname", "region", "datacenter", "rack"]
  | devices _ _ => ["province", "city", "county", "site_id", "device_id"]

/-- the key of the tag that names an entity -/
def nameKey : Family → String
  | hosts => "hostname"
  | devices _ _ => "device_id"

/-- the name that follows from a number -/
def name : Family → Nat → String
  | hosts, n => "host_" ++ String.ofList (Decimal.digits n)
  | devices _ _, n => String.ofList (Decimal.padded Device.idWidth n)

/-- a fleet of `count` entities from the number `first` on, however it was built -/
def Builds : Family → Nat → Nat → Fleet → Prop
  | hosts, first, count, f => ∃ (c : Hosts) (s : Attributes), c.offset.toNat = first ∧
      c.count.toNat = count ∧ ((Fleet.hosts c).run.run s).1 = some (.ok f)
  | devices regions perSite, first, count, f => ∃ (d : Devices) (s : Attributes),
      d.offset.toNat = first ∧ d.count.toNat = count ∧ d.perSite = perSite ∧
        ((Fleet.devices d regions).run.run s).1 = some (.ok f)

theorem keys_identity (k : Family) (n : Nat) : (k.identity n).map (·.key) = k.keys := by
  cases k with
  | hosts => exact Host.keys_identity n
  | devices regions perSite => exact Device.keys_identity regions perSite.toNat n

theorem nodup_keys (k : Family) : k.keys.Nodup := by
  cases k with
  | hosts => exact (by decide : ["hostname", "region", "datacenter", "rack"].Nodup)
  | devices regions perSite =>
    exact (by decide : ["province", "city", "county", "site_id", "device_id"].Nodup)

theorem name_mem_identity (k : Family) (n : Nat) : ⟨k.nameKey, k.name n⟩ ∈ k.identity n := by
  cases k with
  | hosts => exact List.mem_cons_self
  | devices regions perSite =>
    show _ ∈ Device.identity regions perSite.toNat n
    rw [Device.tags_identity]
    exact List.mem_of_getElem? (i := 4) rfl

/-- names of one kind are alike just for one number -/
theorem name_inj {k k' : Family} (hkind : k.nameKey = k'.nameKey) {m n : Nat} :
    k.name m = k'.name n ↔ m = n := by
  have hkeys : "hostname" ≠ "device_id" := by decide
  cases k with
  | hosts =>
    cases k' with
    | hosts =>
      show "host_" ++ _ = "host_" ++ _ ↔ _
      rw [String.append_right_inj, String.ofList_inj]
      exact ⟨Decimal.digits_inj, congrArg _⟩
    | devices regions perSite => exact absurd hkind hkeys
  | devices regions perSite =>
    cases k' with
    | hosts => exact absurd hkind.symm hkeys
    | devices regions' perSite' =>
      show String.ofList _ = String.ofList _ ↔ _
      rw [String.ofList_inj]
      exact ⟨Decimal.padded_inj, congrArg _⟩

end Family

/-! ## consecutive numbers -/

/-- the values of some tags, entity by entity -/
def shown (f : Fleet) (keys : List String) : List (List (Option String)) :=
  f.entities.toList.map fun e => keys.map e.tag?

/-- entities with consecutive numbers, and the tags that follow from these -/
structure Consecutive (k : Family) (first count : Nat) (f : Fleet) : Prop where
  size_eq : f.entities.size = count
  identity_begins : ∀ (i : Nat) e, f.entities[i]? = some e → k.identity (first + i) <+: e.tags

section
variable {k : Family} {first count : Nat} {f : Fleet}

/-- a fleet of numbered entities; its numbers are words, as it has been built -/
theorem consecutive_of_fresh {size offset : UInt64} {make : UInt64 → Choice Entity}
    {s : Attributes} {es : List Entity} {window : Window} {interval : Duration} {start : Int64}
    {kinds : List Kind} {tagKeys : List String}
    (hmake : ∀ n, Always (Entity.Fresh tagKeys (k.identity n.toNat) kinds start n) (make n))
    (hes : ((build size fun i => Entity.numbered i offset make).run.run s).1 = some es)
    (h : ofEntities es window interval = .ok f) : Consecutive k offset.toNat size.toNat f := by
  obtain ⟨hfit, hlength, hfresh⟩ := built_numbered hmake hes
  obtain ⟨first, rest, step, span, -, -, -, -, -, -, -, rfl⟩ := ofEntities_eq_ok h
  refine ⟨hlength, fun i e hi => ?_⟩
  rw [List.getElem?_toArray] at hi
  have hlt := (List.getElem?_eq_some_iff.1 hi).1
  have hnumber : (i.toUInt64 + offset).toNat = offset.toNat + i := by
    rw [Word.toNat_toUInt64_add]
    exact Nat.mod_eq_of_lt (show offset.toNat + i < 2 ^ 64 by omega)
  have hprefix := (hfresh i e hi).identity_begins
  rwa [hnumber] at hprefix

/-- a fleet of devices that is built is that of its entities -/
theorem entities_of_devices {d : Devices} {regions : RegionTable} {s : Attributes}
    (h : ((devices d regions).run.run s).1 = some (.ok f)) :
    ∃ es, ((build d.count fun i =>
        Device.new i d.offset d.window.start d.perSite regions d.overrides).run.run s).1 = some es ∧
      ofEntities es d.window d.interval = .ok f := by
  unfold devices at h
  cases hcheck : if d.count = 0 then .ok () else Device.check regions d.perSite with
  | error fault =>
    rw [hcheck] at h
    exact nomatch h
  | ok =>
    rw [hcheck] at h
    rw [bind_pure_run] at h
    exact Option.map_eq_some_iff.1 h

/-- a fleet of a family has consecutive numbers -/
theorem Family.Builds.consecutive (h : k.Builds first count f) : Consecutive k first count f := by
  cases k with
  | hosts =>
    obtain ⟨c, s, rfl, rfl, hbuilt⟩ := h
    rw [Fleet.hosts, bind_pure_run] at hbuilt
    obtain ⟨es, hes, hf⟩ := Option.map_eq_some_iff.1 hbuilt
    exact consecutive_of_fresh (k := .hosts)
      (fun n => Host.always_ofNumber n c.window.start c.kinds c.overrides) hes hf
  | devices regions perSite =>
    obtain ⟨d, s, rfl, rfl, rfl, hbuilt⟩ := h
    obtain ⟨es, hes, hf⟩ := entities_of_devices hbuilt
    exact consecutive_of_fresh (k := .devices regions d.perSite)
      (fun n => Device.always_ofNumber n d.window.start d.perSite regions d.overrides) hes hf

/-! ## what a fleet shows -/

theorem map_tag?_keys {e : Entity} {n : Nat} (h : k.identity n <+: e.tags) :
    k.keys.map e.tag? = (k.identity n).map fun t => some t.value := by
  have hkeys := k.keys_identity n
  have hnodup := k.nodup_keys
  rw [← hkeys] at hnodup ⊢
  rw [List.map_map]
  exact List.map_congr_left fun t ht => Entity.tag?_of_prefix h hnodup ht

theorem tag?_nameKey {e : Entity} {n : Nat} (h : k.identity n <+: e.tags) :
    e.tag? k.nameKey = some (k.name n) := by
  have hnodup := k.nodup_keys
  rw [← k.keys_identity n] at hnodup
  exact Entity.tag?_of_prefix h hnodup (k.name_mem_identity n)

/-- what a fleet of consecutive numbers shows is a function of the numbers -/
theorem Consecutive.shown_eq (h : Consecutive k first count f) :
    f.shown k.keys
      = (List.range' first count).map fun n => (k.identity n).map fun t => some t.value := by
  apply List.ext_getElem?
  intro i
  rw [shown, List.getElem?_map, List.getElem?_map, Array.getElem?_toList]
  cases hi : f.entities[i]? with
  | none =>
    rw [Array.getElem?_eq_none_iff, h.size_eq] at hi
    rw [List.getElem?_eq_none (by rw [List.length_range']; exact hi)]
    rfl
  | some e =>
    obtain ⟨hlt, -⟩ := Array.getElem?_eq_some_iff.1 hi
    rw [h.size_eq] at hlt
    rw [List.getElem?_range' hlt, Nat.one_mul, Option.map_some, Option.map_some,
      map_tag?_keys (h.identity_begins i e hi)]

end

/-- **Fleets in parts.**  A fleet shows the identity tags of its first part and then those of its
second, however the three of them were built.  Two entities of one kind of fleet, in one fleet or in
two, have one name just if they have one number; so fleets over separate numbers share no name.  A
host stands in a data centre of its region.  (The bounds hold of every fleet that is built: it is cut
off at a number that is no word.) -/
theorem fleets_split :
    (∀ (k : Family) (first a b : Nat) (f f₁ f₂ : Fleet), first + a + b ≤ 2 ^ 64 →
      k.Builds first (a + b) f → k.Builds first a f₁ → k.Builds (first + a) b f₂ →
      f.shown k.keys = f₁.shown k.keys ++ f₂.shown k.keys ∧
        ∀ values ∈ f.shown k.keys, none ∉ values) ∧
    (∀ (k k' : Family) (first count first' count' : Nat) (f f' : Fleet), k.nameKey = k'.nameKey →
      first + count ≤ 2 ^ 64 → first' + count' ≤ 2 ^ 64 →
      k.Builds first count f → k'.Builds first' count' f' →
      (∀ (i i' : Nat) e e', f.entities[i]? = some e → f'.entities[i']? = some e' →
        (e.tag? k.nameKey = e'.tag? k.nameKey ↔ first + i = first' + i')) ∧
      (first + count ≤ first' ∨ first' + count' ≤ first →
        ∀ e ∈ f.entities, ∀ e' ∈ f'.entities, e.tag? k.nameKey ≠ e'.tag? k.nameKey)) ∧
    ∀ (first count : Nat) (f : Fleet), Family.hosts.Builds first count f → ∀ e ∈ f.entities,
      ∃ l ∈ Host.locations, e.tag? "region" = some l.region ∧
        ∃ d ∈ l.datacenters, e.tag? "datacenter" = some d := by
  refine ⟨?_, ?_, ?_⟩
  · intro k first a b f f₁ f₂ _ hwhole hleft hright
    rw [hwhole.consecutive.shown_eq, hleft.consecutive.shown_eq, hright.consecutive.shown_eq,
      ← List.map_append, List.range'_append_1]
    refine ⟨rfl, fun values hvalues => ?_⟩
    obtain ⟨n, -, rfl⟩ := List.mem_map.1 hvalues
    intro hnone
    obtain ⟨t, -, ht⟩ := List.mem_map.1 hnone
    exact nomatch ht
  · intro k k' first count first' count' f f' hkind _ _ hbuilds hbuilds'
    have hc := hbuilds.consecutive
    have hc' := hbuilds'.consecutive
    have hnames : ∀ (i i' : Nat) e e', f.entities[i]? = some e → f'.entities[i']? = some e' →
        (e.tag? k.nameKey = e'.tag? k.nameKey ↔ first + i = first' + i') := by
      intro i i' e e' hi hi'
      rw [tag?_nameKey (hc.identity_begins i e hi), hkind,
        tag?_nameKey (hc'.identity_begins i' e' hi'), Option.some_inj, Family.name_inj hkind]
    refine ⟨hnames, fun hapart e he e' he' h => ?_⟩
    obtain ⟨i, hi⟩ := Array.mem_iff_getElem?.1 he
    obtain ⟨i', hi'⟩ := Array.mem_iff_getElem?.1 he'
    obtain ⟨hlt, -⟩ := Array.getElem?_eq_some_iff.1 hi
    obtain ⟨hlt', -⟩ := Array.getElem?_eq_some_iff.1 hi'
    have hnumber := (hnames i i' e e' hi hi').1 h
    have hsize := hc.size_eq
    have hsize' := hc'.size_eq
    omega
  · intro first count f hbuilds e he
    obtain ⟨i, hi⟩ := Array.mem_iff_getElem?.1 he
    have hprefix : Host.identity (first + i) <+: e.tags := hbuilds.consecutive.identity_begins i e hi
    obtain ⟨rest, hrest⟩ := hprefix
    refine ⟨_, Host.location_mem (first + i), ?_, _, Host.datacenter_mem (first + i), ?_⟩
    · rw [Entity.tag?, ← hrest]
      rfl
    · rw [Entity.tag?, ← hrest]
      rfl

/-- the hosts of the last three numbers, of which the first is built by itself and reports something
else; and as many devices over the built-in table, two to a site, in three fleets that start at
different times -/
theorem fleets_split_last_three :
    18446744073709551613 + 1 + 2 ≤ 2 ^ 64 ∧
    (∃ f f₁ f₂, Family.hosts.Builds 18446744073709551613 (1 + 2) f ∧
      Family.hosts.Builds 18446744073709551613 1 f₁ ∧
      Family.hosts.Builds (18446744073709551613 + 1) 2 f₂ ∧
      f.shown Family.hosts.keys = f₁.shown Family.hosts.keys ++ f₂.shown Family.hosts.keys) ∧
    ∃ f f₁ f₂, (Family.devices .builtIn 2).Builds 18446744073709551613 (1 + 2) f ∧
      (Family.devices .builtIn 2).Builds 18446744073709551613 1 f₁ ∧
      (Family.devices .builtIn 2).Builds (18446744073709551613 + 1) 2 f₂ ∧
      f.shown (Family.devices .builtIn 2).keys
        = f₁.shown (Family.devices .builtIn 2).keys ++ f₂.shown (Family.devices .builtIn 2).keys := by
  have hle : 18446744073709551613 + 1 + 2 ≤ 2 ^ 64 := by decide
  refine ⟨hle, ?_, ?_⟩
  · have hwhole : ∃ f, Family.hosts.Builds 18446744073709551613 (1 + 2) f :=
      ⟨_, { window := ⟨0, 1⟩, count := 3, offset := 18446744073709551613, kinds := [.cpu] }, ⟨0⟩, rfl,
        rfl, rfl⟩
    have hleft : ∃ f, Family.hosts.Builds 18446744073709551613 1 f :=
      ⟨_, { window := ⟨-5, 5⟩, count := 1, offset := 18446744073709551613, kinds := [.net, .cpu] },
        ⟨1⟩, rfl, rfl, rfl⟩
    have hright : ∃ f, Family.hosts.Builds (18446744073709551613 + 1) 2 f :=
      ⟨_, { window := ⟨0, 1⟩, count := 2, offset := 18446744073709551614, kinds := [.cpu] }, ⟨2⟩,
        rfl, rfl, rfl⟩
    obtain ⟨f, hf⟩ := hwhole
    obtain ⟨f₁, hf₁⟩ := hleft
    obtain ⟨f₂, hf₂⟩ := hright
    exact ⟨f, f₁, f₂, hf, hf₁, hf₂, (fleets_split.1 .hosts _ 1 2 f f₁ f₂ hle hf hf₁ hf₂).1⟩
  · have hwhole : ∃ f, (Family.devices .builtIn 2).Builds 18446744073709551613 (1 + 2) f :=
      ⟨_, { window := ⟨0, 1⟩, count := 3, offset := 18446744073709551613, perSite := 2 }, ⟨0⟩, rfl,
        rfl, rfl, rfl⟩
    have hleft : ∃ f, (Family.devices .builtIn 2).Builds 18446744073709551613 1 f :=
      ⟨_, { window := ⟨-5, 5⟩, count := 1, offset := 18446744073709551613, perSite := 2 }, ⟨1⟩, rfl,
        rfl, rfl, rfl⟩
    have hright : ∃ f, (Family.devices .builtIn 2).Builds (18446744073709551613 + 1) 2 f :=
      ⟨_, { window := ⟨7, 8⟩, count := 2, offset := 18446744073709551614, perSite := 2 }, ⟨2⟩, rfl,
        rfl, rfl, rfl⟩
    obtain ⟨f, hf⟩ := hwhole
    obtain ⟨f₁, hf₁⟩ := hleft
    obtain ⟨f₂, hf₂⟩ := hright
    exact ⟨f, f₁, f₂, hf, hf₁, hf₂, (fleets_split.1 _ _ 1 2 f f₁ f₂ hle hf hf₁ hf₂).1⟩

end Fleet

end Telemetry
