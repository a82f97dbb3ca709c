import Mathlib.Data.List.Nodup
import Mathlib.Data.List.Rotate
import Telemetry.Proofs.Decimal.Digits
import Telemetry.Proofs.Entity.Fresh
import Telemetry.Text.Cut

/-!
# Sites of charge devices

The name of a site shows an area code and the number of the site among those with that code.  As no
code stands in a table twice, the name determines the site, and with it the place on the map.

* `readSite?`          the code and the number that a name shows;
* `siteId_inj`         two sites of one name are one site;
* `codes_eq_rotate`    the codes of consecutive sites are the table, begun somewhere in the middle;
* `Made`               a device with an identity number;
* `Located`            what the tags of a device say about its place;
* `sites_of_devices`   devices, their sites and their places.
-/

namespace Telemetry.Device

open Telemetry.Random

/-! ## names of sites -/

/-- the area code and the number in the name of a site -/
def readSite? (name : String) : Option (Nat × Nat) := do
  let (_, rest) ← Text.cutAt? '_' name.toList
  let (code, number) ← Text.cutAt? '_' rest
  return (← Decimal.readDigits? code, ← Decimal.readDigits? number)

section
variable {codes : List UInt32}

theorem toList_siteId (codes : List UInt32) (site : Nat) :
    (siteId codes site).toList
      = ['s', 'i', 't', 'e'] ++ '_' :: (Decimal.digits (siteCode codes site).toNat ++ '_' ::
          Decimal.padded 4 (site / codes.length)) := by
  have hword : "site_".toList = ['s', 'i', 't', 'e', '_'] := rfl
  have hlist : (siteId codes site).toList
      = "site_".toList ++ Decimal.digits (siteCode codes site).toNat ++ '_' ::
          Decimal.padded 4 (site / codes.length) := String.toList_ofList
  rw [hlist, hword]
  exact List.append_assoc _ _ _

theorem readSite?_siteId (codes : List UInt32) (site : Nat) :
    readSite? (siteId codes site)
      = some ((siteCode codes site).toNat, site / codes.length) := by
  -- no digit is a separator, so a cut at the first one takes just one part off
  have hword : '_' ∉ ['s', 'i', 't', 'e'] := by decide
  have hcode : '_' ∉ Decimal.digits (siteCode codes site).toNat := fun h =>
    absurd (Decimal.mem_digits h) (by decide)
  rw [readSite?, toList_siteId, Text.cutAt?_append hword]
  show (Text.cutAt? '_' _).bind _ = _
  rw [Text.cutAt?_append hcode]
  show (Decimal.readDigits? _).bind _ = _
  rw [Decimal.readDigits?_digits]
  show (Decimal.readDigits? _).bind _ = _
  rw [Decimal.readDigits?_padded]
  rfl

theorem siteCode_inj (hcodes : codes ≠ []) (hnodup : codes.Nodup) {m n : Nat}
    (h : siteCode codes m = siteCode codes n) : m % codes.length = n % codes.length := by
  have hlt : m % codes.length < codes.length := Nat.mod_lt _ (List.length_pos_iff.2 hcodes)
  refine (List.getElem?_inj hlt hnodup).1 ?_
  rw [siteCode_mem hcodes, siteCode_mem hcodes, h]

theorem siteId_inj (hcodes : codes ≠ []) (hnodup : codes.Nodup) {m n : Nat}
    (h : siteId codes m = siteId codes n) : m = n := by
  -- the number in the name is the quotient, and the code says which remainder
  have hread := congrArg readSite? h
  rw [readSite?_siteId, readSite?_siteId] at hread
  obtain ⟨hcode, hnumber⟩ := Prod.mk.inj (Option.some.inj hread)
  have hmod := siteCode_inj hcodes hnodup (UInt32.toNat_inj.1 hcode)
  rw [← Nat.div_add_mod m codes.length, ← Nat.div_add_mod n codes.length, hnumber, hmod]

/-- as many consecutive sites as there are codes: the codes in turn, from some code on -/
theorem codes_eq_rotate (hcodes : codes ≠ []) (site : Nat) :
    (List.range codes.length).map (fun i => siteCode codes (site + i)) = codes.rotate site := by
  apply List.ext_getElem?
  intro i
  rcases Nat.lt_or_ge i codes.length with hi | hi
  · rw [List.getElem?_rotate hi, Nat.add_comm i, siteCode_mem hcodes, List.getElem?_map,
      List.getElem?_range hi]
    rfl
  · rw [List.getElem?_eq_none (by simpa using hi), List.getElem?_eq_none (by simpa using hi)]

end

/-! ## devices -/

/-- a device with an identity number, as it was built -/
def Made (regions : RegionTable) (perSite : UInt64) (n : Nat) (e : Entity) : Prop :=
  ∃ (index offset : UInt64) (start : Int64) (o : Overrides) (a : Attributes),
    index.toNat + offset.toNat = n ∧
      ((new? index offset start perSite regions o).run.run a).1 = some (.ok e)

/-- the area code and the number that the tags of a device show -/
def site? (e : Entity) : Option (Nat × Nat) := (e.tag? "site_id").bind readSite?

/-- a device whose tags show an area code of the table, and the names that the table has for it -/
structure Located (regions : RegionTable) (code : UInt32) (e : Entity) : Prop where
  code_mem : code ∈ regions.codes
  code_eq : (site? e).map Prod.fst = some code.toNat
  province_eq : e.tag? "province" = some ((regions.lookup code).elim unknown Region.province)
  city_eq : e.tag? "city" = some ((regions.lookup code).elim unknown Region.city)
  county_eq : e.tag? "county" = some ((regions.lookup code).elim unknown Region.county)

section
variable {regions : RegionTable} {perSite : UInt64} {n n' : Nat} {e e' : Entity}

theorem check_eq_ok (hcodes : regions.codes ≠ []) (hroom : perSite ≠ 0) :
    check regions perSite = .ok () := by
  have hempty : ¬ regions.codes.isEmpty = true := by simpa using hcodes
  rw [check, if_neg hempty, if_neg hroom]

/-- a device is built where its number is a word -/
theorem new?_of_lt (hcodes : regions.codes ≠ []) (hroom : perSite ≠ 0) {index offset : UInt64}
    (hlt : index.toNat + offset.toNat < UInt64.size) (start : Int64) (o : Overrides)
    (a : Attributes) :
    ((new? index offset start perSite regions o).run.run a).1
      = some (.ok ((ofNumber (index + offset) start perSite regions o).run a).1) := by
  rw [new?, check_eq_ok hcodes hroom, new, Entity.numbered_of_lt _ hlt]
  rfl

theorem new?_of_le (hcodes : regions.codes ≠ []) (hroom : perSite ≠ 0) {index offset : UInt64}
    (hle : UInt64.size ≤ index.toNat + offset.toNat) (start : Int64) (o : Overrides)
    (a : Attributes) :
    ((new? index offset start perSite regions o).run.run a).1 = none := by
  rw [new?, check_eq_ok hcodes hroom, new, Entity.numbered_of_le _ hle]
  rfl

theorem Made.starts (hcodes : regions.codes ≠ []) (hroom : perSite ≠ 0)
    (h : Made regions perSite n e) : identity regions perSite.toNat n <+: e.tags := by
  obtain ⟨index, offset, start, o, a, hn, hnew⟩ := h
  rcases Nat.lt_or_ge (index.toNat + offset.toNat) (UInt64.size) with hlt | hle
  · rw [new?_of_lt hcodes hroom hlt] at hnew
    obtain rfl := Except.ok.inj (Option.some.inj hnew)
    have hsum : (index + offset).toNat = n := by
      rw [UInt64.toNat_add, Nat.mod_eq_of_lt hlt, hn]
    rw [← hsum]
    exact (always_ofNumber (index + offset) start perSite regions o a).identity_begins
  · rw [new?_of_le hcodes hroom hle] at hnew
    exact nomatch hnew

theorem tags_identity (regions : RegionTable) (d n : Nat) :
    identity regions d n =
      [⟨"province", (regions.lookup (siteCode regions.codes (n / d))).elim unknown Region.province⟩,
       ⟨"city", (regions.lookup (siteCode regions.codes (n / d))).elim unknown Region.city⟩,
       ⟨"county", (regions.lookup (siteCode regions.codes (n / d))).elim unknown Region.county⟩,
       ⟨"site_id", siteId regions.codes (n / d)⟩,
       ⟨"device_id", String.ofList (Decimal.padded idWidth n)⟩] := by
  simp only [identity]
  cases regions.lookup (siteCode regions.codes (n / d)) <;> rfl

theorem Made.tags_eq (hcodes : regions.codes ≠ []) (hroom : perSite ≠ 0)
    (h : Made regions perSite n e) :
    e.tag? "site_id" = some (siteId regions.codes (n / perSite.toNat)) ∧
      Located regions (siteCode regions.codes (n / perSite.toNat)) e := by
  obtain ⟨rest, hrest⟩ := h.starts hcodes hroom
  rw [tags_identity] at hrest
  have hsite : e.tag? "site_id" = some (siteId regions.codes (n / perSite.toNat)) := by
    rw [Entity.tag?, ← hrest]
    rfl
  refine ⟨hsite, List.mem_of_getElem? (siteCode_mem hcodes _), ?_, ?_, ?_, ?_⟩
  · rw [site?, hsite, Option.bind_some, readSite?_siteId]
    rfl
  · rw [Entity.tag?, ← hrest]
    rfl
  · rw [Entity.tag?, ← hrest]
    rfl
  · rw [Entity.tag?, ← hrest]
    rfl

theorem codes_of_devices (hcodes : regions.codes ≠ []) (hroom : perSite ≠ 0) {site : Nat}
    {number : Nat → Nat} {device : Nat → Entity}
    (h : ∀ i < regions.codes.length,
      Made regions perSite (number i) (device i) ∧ number i / perSite.toNat = site + i) :
    (List.range regions.codes.length).map (fun i => (site? (device i)).map Prod.fst)
      = (regions.codes.rotate site).map fun code => some code.toNat := by
  rw [← codes_eq_rotate hcodes, List.map_map]
  apply List.map_congr_left
  intro i hi
  obtain ⟨hmade, hsite⟩ := h i (List.mem_range.1 hi)
  have hcode := (hmade.tags_eq hcodes hroom).2.code_eq
  rwa [hsite] at hcode

theorem count_rotate (hnodup : regions.codes.Nodup) (site : Nat) {code : UInt32}
    (hcode : code ∈ regions.codes) :
    ((regions.codes.rotate site).map fun code => some code.toNat).count (some code.toNat) = 1 := by
  have hinj : Function.Injective fun code : UInt32 => some code.toNat := fun a b hab =>
    UInt32.toNat_inj.1 (Option.some.inj hab)
  exact List.count_eq_one_of_mem ((List.nodup_rotate.2 hnodup).map hinj)
    (List.mem_map_of_mem (List.mem_rotate.2 hcode))

/-- **Sites.**  Where a table has codes, no two of them alike, and sites have room, every device is
built whose number is a word.  Two devices show one site exactly if their numbers have one quotient by
the room of a site, and then one province, city and county; these are what the table has for the code
in the name of the site.  With one device from each of as many consecutive sites as there are codes,
the devices show the codes in turn, each of them once. -/
theorem sites_of_devices (hcodes : regions.codes ≠ []) (hnodup : regions.codes.Nodup)
    (hroom : perSite ≠ 0) :
    (∀ (index offset : UInt64) (start : Int64) (o : Overrides) (a : Attributes),
      index.toNat + offset.toNat < UInt64.size →
        ∃ e, ((new? index offset start perSite regions o).run.run a).1 = some (.ok e)) ∧
    (∀ (n n' : Nat) (e e' : Entity), Made regions perSite n e → Made regions perSite n' e' →
      (e.tag? "site_id" = e'.tag? "site_id" ↔ n / perSite.toNat = n' / perSite.toNat) ∧
      (e.tag? "site_id" = e'.tag? "site_id" → e.tag? "province" = e'.tag? "province" ∧
        e.tag? "city" = e'.tag? "city" ∧ e.tag? "county" = e'.tag? "county")) ∧
    (∀ (n : Nat) (e : Entity), Made regions perSite n e → ∃ code, Located regions code e) ∧
    ∀ (site : Nat) (number : Nat → Nat) (device : Nat → Entity),
      (∀ i < regions.codes.length,
        Made regions perSite (number i) (device i) ∧ number i / perSite.toNat = site + i) →
      (List.range regions.codes.length).map (fun i => (site? (device i)).map Prod.fst)
          = (regions.codes.rotate site).map (fun code => some code.toNat) ∧
        ∀ code ∈ regions.codes,
          ((List.range regions.codes.length).map fun i => (site? (device i)).map Prod.fst).count
            (some code.toNat) = 1 := by
  refine ⟨fun index offset start o a hlt => ⟨_, new?_of_lt hcodes hroom hlt start o a⟩, ?_, ?_, ?_⟩
  · intro n n' e e' hmade hmade'
    obtain ⟨hsite, hlocated⟩ := hmade.tags_eq hcodes hroom
    obtain ⟨hsite', hlocated'⟩ := hmade'.tags_eq hcodes hroom
    have hiff : e.tag? "site_id" = e'.tag? "site_id" ↔ n / perSite.toNat = n' / perSite.toNat := by
      rw [hsite, hsite']
      refine ⟨fun h => siteId_inj hcodes hnodup (Option.some.inj h), fun h => by rw [h]⟩
    refine ⟨hiff, fun h => ?_⟩
    rw [hiff.1 h] at hlocated
    exact ⟨hlocated.province_eq.trans hlocated'.province_eq.symm,
      hlocated.city_eq.trans hlocated'.city_eq.symm,
      hlocated.county_eq.trans hlocated'.county_eq.symm⟩
  · intro n e hmade
    exact ⟨_, (hmade.tags_eq hcodes hroom).2⟩
  · intro site number device h
    have hlist := codes_of_devices hcodes hroom h
    refine ⟨hlist, fun code hcode => ?_⟩
    rw [hlist]
    exact count_rotate hnodup site hcode

/-- ten devices at a site: two with numbers between 40 and 49 -/
theorem sites_of_devices_built_in : RegionTable.builtIn.codes ≠ [] ∧
    RegionTable.builtIn.codes.Nodup ∧ (10 : UInt64) ≠ 0 ∧
    ∃ e e', Made .builtIn 10 42 e ∧ Made .builtIn 10 47 e' ∧
      e.tag? "site_id" = e'.tag? "site_id" := by
  have hcodes : RegionTable.builtIn.codes ≠ [] := by decide
  have hnodup : RegionTable.builtIn.codes.Nodup := by decide
  have hroom : (10 : UInt64) ≠ 0 := by decide
  obtain ⟨hnew, hsame, -⟩ := sites_of_devices hcodes hnodup hroom
  obtain ⟨e, he⟩ := hnew 2 40 0 {} ⟨0⟩ (by decide)
  obtain ⟨e', he'⟩ := hnew 7 40 0 {} ⟨1⟩ (by decide)
  have hmade : Made .builtIn 10 42 e := ⟨2, 40, 0, {}, ⟨0⟩, rfl, he⟩
  have hmade' : Made .builtIn 10 47 e' := ⟨7, 40, 0, {}, ⟨1⟩, rfl, he'⟩
  exact ⟨hcodes, hnodup, hroom, _, _, hmade, hmade', ((hsame _ _ _ _ hmade hmade').1).2 (by decide)⟩

end

end Telemetry.Device
