import Telemetry.Config.Basic
import Telemetry.Proofs.Entity.Fresh
import Telemetry.Proofs.Fleet.Acceptance

/-!
# Which settings make a fleet

The checks of a configuration are made in several places: on the settings, before a device is built,
and on the entities when all of them are there.  Here they are put together.

* `Config.measurements`   the number of measurements of each entity;
* `Config.entities`       the entities of the settings, before any check of them: all where the last
                          identity number is a word, and none otherwise (`answers_entities`,
                          `lost_entities`);
* `Config.Describes`      entity number `i` as the settings say it, every number of it exact;
* `Config.Buildable`      settings that pass all checks, in whole numbers;
* `Config.Makes`          the fleet of such settings;
* `Config.Refuses`        the error of all other settings;
* `Config.fleet_iff`      there is a fleet exactly for the former.
-/

namespace Telemetry

open Telemetry.Random

namespace Config

/-! ## what is asked for -/

/-- the kinds of the rows of each entity -/
def measured (c : Config) : List Kind :=
  match c.workload with
  | .devops => if c.kinds.isEmpty then Kind.hostKinds else c.kinds
  | .charge => [.cityUtility]
  | .metaquery => []

/-- the number of measurements of each entity -/
def measurements (c : Config) : Nat :=
  match c.workload with
  | .devops => if c.kinds.isEmpty then 8 else c.kinds.length
  | .charge => 1
  | .metaquery => 0

theorem length_measured (c : Config) : c.measured.length = c.measurements := by
  unfold measured measurements
  cases c.workload with
  | devops =>
    show (if c.kinds.isEmpty then Kind.hostKinds else c.kinds).length = _
    split <;> rfl
  | charge => rfl
  | metaquery => rfl

/-- the tag keys of each entity -/
def keys (c : Config) : List String :=
  match c.workload with
  | .devops => Host.tagKeys
  | .charge => Device.tagKeys
  | .metaquery => []

/-- the tags that follow from an identity number -/
def identity (c : Config) (regions : RegionTable) (n : Nat) : List Tag :=
  match c.workload with
  | .devops => Host.identity n
  | .charge => Device.identity regions c.devicesPerSite.toNat n
  | .metaquery => []

/-- the entities of the settings, before any check of them -/
def entities (c : Config) (w : Window) (regions : RegionTable) : OptionT Choice (List Entity) :=
  match c.workload with
  | .devops =>
    Fleet.build c.entityCount fun i =>
      Host.new i c.offset w.start (if c.kinds.isEmpty then Kind.hostKinds else c.kinds) c.overrides
  | .charge =>
    Fleet.build c.entityCount fun i =>
      Device.new i c.offset w.start c.devicesPerSite regions c.overrides
  | .metaquery => return []

theorem answers_entities {c : Config} (w : Window) (regions : RegionTable)
    (hfleet : c.workload ≠ .metaquery) (hoffset : c.offset.toNat + c.entityCount.toNat ≤ 2 ^ 64) :
    Answers (fun es => es.length = c.entityCount.toNat ∧ ∀ (i : Nat) e, es[i]? = some e →
        e.Fresh c.keys (c.identity regions (i.toUInt64 + c.offset).toNat) c.measured w.start
          (i.toUInt64 + c.offset)) (c.entities w regions) := by
  unfold entities keys identity measured
  cases hworkload : c.workload with
  | devops => exact Fleet.answers_build (fun n => Host.always_ofNumber n _ _ _) hoffset
  | charge => exact Fleet.answers_build (fun n => Device.always_ofNumber n _ _ _ _) hoffset
  | metaquery => exact absurd hworkload hfleet

theorem lost_entities {c : Config} (w : Window) (regions : RegionTable)
    (hfleet : c.workload ≠ .metaquery) (hoffset : 2 ^ 64 < c.offset.toNat + c.entityCount.toNat) :
    Lost (c.entities w regions) := by
  unfold entities
  cases hworkload : c.workload with
  | devops => exact Fleet.lost_build _ hoffset
  | charge => exact Fleet.lost_build _ hoffset
  | metaquery => exact absurd hworkload hfleet

/-! ## the checks on the settings -/

theorem window_eq_ok_iff {c : Config} {w : Window} :
    c.window = .ok w ↔ c.start.nanos? = some w.start ∧ c.stop.nanos? = some w.stop := by
  unfold window timestamp
  cases c.start.nanos? with
  | none => exact iff_of_false nofun nofun
  | some start =>
    cases c.stop.nanos? with
    | none => exact iff_of_false nofun nofun
    | some stop =>
      obtain ⟨start', stop'⟩ := w
      show Except.ok (Window.mk start stop) = .ok (Window.mk start' stop') ↔
        some start = some start' ∧ some stop = some stop'
      rw [Except.ok.injEq, Window.mk.injEq, Option.some.injEq, Option.some.injEq]

/-- the error of settings that are not accepted, by what is wrong with them -/
inductive Refuses (c : Config) : Fault → Prop where
  | start (hstart : c.start.nanos? = none) : Refuses c (.invalidTimestamp c.start.seconds)
  | stop {start : Int64} (hstart : c.start.nanos? = some start) (hstop : c.stop.nanos? = none) :
    Refuses c (.invalidTimestamp c.stop.seconds)
  | setting {w : Window} (hstart : c.start.nanos? = some w.start)
    (hstop : c.stop.nanos? = some w.stop) (fault : ConfigFault) : Refuses c (.invalidConfig fault)

theorem refuses_of_window {c : Config} {e : Fault} (h : c.window = .error e) : c.Refuses e := by
  unfold window timestamp at h
  cases hstart : c.start.nanos? with
  | none =>
    rw [hstart] at h
    obtain rfl := Except.error.inj h
    exact .start hstart
  | some start =>
    cases hstop : c.stop.nanos? with
    | none =>
      rw [hstart, hstop] at h
      obtain rfl := Except.error.inj h
      exact .stop hstart hstop
    | some stop =>
      rw [hstart, hstop] at h
      exact nomatch h

theorem check_of_window {c : Config} {w : Window} (h : c.window = .ok w) :
    c.check = match c.fault? w with
      | some fault => .error (.invalidConfig fault)
      | none => .ok w := by
  unfold check
  rw [h]
  rfl

theorem check_eq_ok_iff {c : Config} {w : Window} :
    c.check = .ok w ↔ c.window = .ok w ∧ c.fault? w = none := by
  constructor
  · intro h
    cases hwindow : c.window with
    | error e =>
      rw [check, hwindow] at h
      exact nomatch h
    | ok w' =>
      rw [check_of_window hwindow] at h
      cases hfault : c.fault? w' with
      | some fault =>
        rw [hfault] at h
        exact nomatch h
      | none =>
        rw [hfault] at h
        obtain rfl := Except.ok.inj h
        exact ⟨rfl, hfault⟩
  · rintro ⟨hwindow, hfault⟩
    rw [check_of_window hwindow, hfault]

theorem refuses_of_check {c : Config} {e : Fault} (h : c.check = .error e) : c.Refuses e := by
  cases hwindow : c.window with
  | error e' =>
    rw [check, hwindow] at h
    obtain rfl := Except.error.inj h
    exact refuses_of_window hwindow
  | ok w =>
    obtain ⟨hstart, hstop⟩ := window_eq_ok_iff.1 hwindow
    rw [check_of_window hwindow] at h
    cases hfault : c.fault? w with
    | none =>
      rw [hfault] at h
      exact nomatch h
    | some fault =>
      rw [hfault] at h
      obtain rfl := Except.error.inj h
      exact .setting hstart hstop fault

theorem ite_some_eq_none_iff {α : Type} {p : Prop} [Decidable p] {x : α} {y : Option α} :
    (if p then some x else y) = none ↔ ¬ p ∧ y = none := by
  by_cases hp : p
  · rw [if_pos hp]
    exact iff_of_false nofun fun h => h.1 hp
  · rw [if_neg hp]
    exact (and_iff_right hp).symm

/-- the checks on the settings of a fleet -/
theorem fault?_eq_none_iff {c : Config} {w : Window} (hfleet : c.workload ≠ .metaquery) :
    c.fault? w = none ↔ w.start.toInt < w.stop.toInt ∧ 0 < c.interval.toNanos ∧
      0 < c.entityCount.toNat ∧ (c.workload = .charge → 0 < c.devicesPerSite.toNat) := by
  rw [← Window.not_isEmpty_iff, Nat.pos_iff_ne_zero, Ne, ← Duration.isZero_iff, Word.toNat_pos_iff,
    Word.toNat_pos_iff, fault?, ite_some_eq_none_iff]
  refine and_congr_right fun _ => ?_
  cases hworkload : c.workload with
  | devops =>
    show (if c.interval.isZero then some _ else if c.entityCount = 0 then some _ else none) = none
      ↔ _
    rw [ite_some_eq_none_iff, ite_some_eq_none_iff]
    exact and_congr_right fun _ => and_congr_right fun _ => iff_of_true rfl nofun
  | charge =>
    show (if c.interval.isZero then some _ else if c.entityCount = 0 then some _
      else if c.devicesPerSite = 0 then some _ else none) = none ↔ _
    rw [ite_some_eq_none_iff, ite_some_eq_none_iff, ite_some_eq_none_iff]
    refine and_congr_right fun _ => and_congr_right fun _ => ?_
    exact ⟨fun h _ => h.1, fun h => ⟨h rfl, rfl⟩⟩
  | metaquery => exact absurd hworkload hfleet

/-! ## the ways to a fleet -/

/-- settings of a fleet, whose devices have a site -/
structure Placed (c : Config) (regions : RegionTable) : Prop where
  fleet : c.workload ≠ .metaquery
  sites : c.workload = .charge → 0 < c.devicesPerSite.toNat ∧ regions.codes ≠ []

theorem check_sites_iff {regions : RegionTable} {perSite : UInt64} :
    Device.check regions perSite = .ok () ↔ 0 < perSite.toNat ∧ regions.codes ≠ [] := by
  rw [Word.toNat_pos_iff, Ne, ← List.isEmpty_iff, Device.check]
  by_cases hcodes : regions.codes.isEmpty = true
  · rw [if_pos hcodes]
    exact iff_of_false nofun fun h => h.2 hcodes
  rw [if_neg hcodes]
  by_cases hzero : perSite = 0
  · rw [if_pos hzero]
    exact iff_of_false nofun fun h => h.1 hzero
  · rw [if_neg hzero]
    exact iff_of_true rfl ⟨hzero, hcodes⟩

/-- what comes of settings -/
inductive Comes (c : Config) (regions : RegionTable) (s : Attributes) :
    Option (Except Fault Fleet) → Prop where
  /-- a setting does not fit -/
  | refused {e : Fault} (hcheck : c.check = .error e) : Comes c regions s (some (.error e))
  /-- the settings are none of a fleet, or there is no site for a device -/
  | unplaced {w : Window} (hcheck : c.check = .ok w) (hplaced : ¬ c.Placed regions)
    (fault : ConfigFault) : Comes c regions s (some (.error (.invalidConfig fault)))
  /-- the entities are built, if they are not cut off, and are a fleet or not -/
  | built {w : Window} (hcheck : c.check = .ok w) (hplaced : c.Placed regions) :
    Comes c regions s (((c.entities w regions).run.run s).1.map fun es =>
      (Fleet.ofEntities es w c.interval).mapError .invalidConfig)

theorem comes_fleet (c : Config) (regions : RegionTable) (s : Attributes) :
    c.Comes regions s ((c.fleet regions).run.run s).1 := by
  unfold fleet
  cases hcheck : c.check with
  | error e => exact .refused hcheck
  | ok w =>
    cases hworkload : c.workload with
    | devops =>
      have hplaced : c.Placed regions := ⟨by rw [hworkload]; nofun, by rw [hworkload]; nofun⟩
      have hbuilt := Comes.built (s := s) hcheck hplaced
      rw [entities, hworkload] at hbuilt
      show c.Comes regions s ((Fleet.hosts (c.hosts w) >>= fun built =>
        pure (built.mapError .invalidConfig)).run.run s).1
      rw [bind_pure_run, Fleet.hosts, bind_pure_run, Option.map_map]
      exact hbuilt
    | charge =>
      -- sites are looked at only where there is a device, and without one the settings are refused
      have hfault := (check_eq_ok_iff.1 hcheck).2
      rw [fault?_eq_none_iff (by rw [hworkload]; nofun)] at hfault
      obtain ⟨-, -, hcount, -⟩ := hfault
      show c.Comes regions s ((Fleet.devices (c.devices w) regions >>= fun built =>
        pure (built.mapError .invalidConfig)).run.run s).1
      rw [bind_pure_run]
      cases hsites : Device.check regions c.devicesPerSite with
      | error fault =>
        rw [Fleet.devices_of_error (d := c.devices w) (Word.toNat_pos_iff.1 hcount) hsites]
        refine .unplaced hcheck (fun hplaced => ?_) fault
        rw [check_sites_iff.2 (hplaced.sites hworkload)] at hsites
        exact nomatch hsites
      | ok u =>
        have hplaced : c.Placed regions :=
          ⟨by rw [hworkload]; nofun, fun _ => check_sites_iff.1 hsites⟩
        have hbuilt := Comes.built (s := s) hcheck hplaced
        rw [entities, hworkload] at hbuilt
        rw [Fleet.devices_of_ok (d := c.devices w) hsites, bind_pure_run, Option.map_map]
        exact hbuilt
    | metaquery => exact .unplaced hcheck (fun hplaced => hplaced.fleet hworkload) .noFleet

/-! ## entities -/

theorem toNat_index (c : Config) (i : Nat) :
    (i.toUInt64 + c.offset).toNat = (c.offset.toNat + i) % 2 ^ 64 :=
  Word.toNat_toUInt64_add c.offset i

/-- entity number `i` of the settings, with every number of it as a whole number -/
structure Describes (c : Config) (regions : RegionTable) (w : Window) (i : Nat) (e : Entity) :
    Prop where
  index_eq : e.index.toNat = c.offset.toNat + i
  length_eq : e.generators.length = c.measurements
  kinds_eq : e.generators.map Generator.kind = c.measured
  keys_eq : e.tagKeys = c.keys
  identity_begins : c.identity regions (c.offset.toNat + i) <+: e.tags
  /-- the site of a device has an area code -/
  site : c.workload = .charge →
    regions.codes[(c.offset.toNat + i) / c.devicesPerSite.toNat % regions.codes.length]?
      = some (Device.siteCode regions.codes ((c.offset.toNat + i) / c.devicesPerSite.toNat))
  exact : ∀ g ∈ e.generators, g.Exact w.start

section
variable {c : Config} {regions : RegionTable} {w : Window}

theorem measurements_pos (hfleet : c.workload ≠ .metaquery) : 0 < c.measurements := by
  unfold measurements
  cases hworkload : c.workload with
  | devops =>
    show 0 < if c.kinds.isEmpty then 8 else c.kinds.length
    split
    · decide
    · rename_i hkinds
      rw [List.isEmpty_iff] at hkinds
      exact List.length_pos_iff.2 hkinds
  | charge => exact Nat.one_pos
  | metaquery => exact absurd hworkload hfleet

theorem length_of_fresh {n : UInt64} {identity : List Tag} {start : Int64} {e : Entity}
    (h : e.Fresh c.keys identity c.measured start n) : e.generators.length = c.measurements := by
  rw [← length_measured, ← h.kinds_eq, List.length_map]

/-- the entities are of one schema, and they are as the settings say -/
theorem answers_describes (w : Window) (hplaced : c.Placed regions)
    (hoffset : c.offset.toNat + c.entityCount.toNat ≤ 2 ^ 64) :
    Answers (fun es => es.length = c.entityCount.toNat ∧
        Fleet.Uniform c.measurements c.keys es ∧
        ∀ (i : Nat) e, es[i]? = some e → c.Describes regions w i e)
      (c.entities w regions) := by
  refine (answers_entities w regions hplaced.fleet hoffset).imp ?_
  rintro _ ⟨es, rfl, hlength, hes⟩
  refine ⟨es, rfl, hlength, ⟨?_, ?_⟩, fun i e hi => ?_⟩
  · intro e he
    obtain ⟨i, hi⟩ := List.mem_iff_getElem?.1 he
    exact length_of_fresh (hes i e hi)
  · intro e he
    obtain ⟨i, hi⟩ := List.mem_iff_getElem?.1 he
    exact (hes i e hi).keys_eq
  have hfresh := hes i e hi
  have hlt : i < c.entityCount.toNat := by
    rw [← hlength]
    exact (List.getElem?_eq_some_iff.1 hi).1
  have hindex : (i.toUInt64 + c.offset).toNat = c.offset.toNat + i := by
    rw [toNat_index]
    exact Nat.mod_eq_of_lt (by omega)
  refine ⟨?_, length_of_fresh hfresh, hfresh.kinds_eq, hfresh.keys_eq, ?_, ?_, hfresh.exact⟩
  · rw [hfresh.index_eq, hindex]
  · rw [← hindex]
    exact hfresh.identity_begins
  · intro hcharge
    exact Device.siteCode_mem (hplaced.sites hcharge).2 _

/-! ## acceptance -/

/-- settings that pass all checks, over a table of regions and with the window `w` -/
structure Buildable (c : Config) (regions : RegionTable) (w : Window) : Prop where
  workload : c.workload = .devops ∨ c.workload = .charge
  start_eq : c.start.nanos? = some w.start
  stop_eq : c.stop.nanos? = some w.stop
  start_lt : w.start.toInt < w.stop.toInt
  span_le : w.stop.toInt - w.start.toInt ≤ 9223372036854775807
  interval_pos : 0 < c.interval.toNanos
  interval_le : c.interval.toNanos ≤ 9223372036854775807
  count_pos : 0 < c.entityCount.toNat
  sites : c.workload = .charge → 0 < c.devicesPerSite.toNat ∧ regions.codes ≠ []
  total_lt : c.entityCount.toNat * c.measurements
    * ((w.stop.toInt - w.start.toInt).toNat ⌈/⌉ c.interval.toNanos) < 2 ^ 64

/-- the checks where they are made: on the settings, before a device, and on the entities -/
theorem buildable_iff : c.Buildable regions w ↔ c.Placed regions ∧ c.check = .ok w ∧
    Fleet.Fits (c.entityCount.toNat * c.measurements) w c.interval := by
  constructor
  · intro h
    have hfleet : c.workload ≠ .metaquery := by
      rcases h.workload with hw | hw <;> rw [hw] <;> nofun
    have hfault := (fault?_eq_none_iff hfleet).2
      ⟨h.start_lt, h.interval_pos, h.count_pos, fun hcharge => (h.sites hcharge).1⟩
    exact ⟨⟨hfleet, h.sites⟩,
      check_eq_ok_iff.2 ⟨window_eq_ok_iff.2 ⟨h.start_eq, h.stop_eq⟩, hfault⟩,
      ⟨h.start_lt, h.span_le, h.interval_pos, h.interval_le, h.total_lt⟩⟩
  · rintro ⟨hplaced, hcheck, hfits⟩
    obtain ⟨hwindow, hfault⟩ := check_eq_ok_iff.1 hcheck
    obtain ⟨hstart, hstop⟩ := window_eq_ok_iff.1 hwindow
    obtain ⟨-, -, hcount, -⟩ := (fault?_eq_none_iff hplaced.fleet).1 hfault
    have hworkload : c.workload = .devops ∨ c.workload = .charge := by
      cases h : c.workload with
      | devops => exact .inl rfl
      | charge => exact .inr rfl
      | metaquery => exact absurd h hplaced.fleet
    exact ⟨hworkload, hstart, hstop, hfits.start_lt, hfits.span_le, hfits.interval_pos,
      hfits.interval_le, hcount, hplaced.sites, hfits.total_lt⟩

/-- the fleet of settings that pass all checks -/
structure Makes (c : Config) (regions : RegionTable) (w : Window) (f : Fleet) : Prop where
  window_eq : f.window = w
  size_eq : f.entities.size = c.entityCount.toNat
  entity : ∀ i < c.entityCount.toNat, ∃ e, f.entities[i]? = some e ∧ c.Describes regions w i e
  slots_eq : f.slots.toNat = c.measurements
  rows_eq : f.rowsPerEpoch.toNat = c.entityCount.toNat * c.measurements
  epochs_eq : f.epochs.toNat
    = (w.stop.toInt - w.start.toInt).toNat ⌈/⌉ c.interval.toNanos
  total_eq : f.total.toNat = c.entityCount.toNat * c.measurements
    * ((w.stop.toInt - w.start.toInt).toNat ⌈/⌉ c.interval.toNanos)

theorem makes_of_built {es : List Entity} {f : Fleet} (hb : Fleet.Built es w c.interval f)
    (hlength : es.length = c.entityCount.toNat) (huniform : Fleet.Uniform c.measurements c.keys es)
    (hes : ∀ (i : Nat) e, es[i]? = some e → c.Describes regions w i e) : c.Makes regions w f where
  window_eq := hb.window_eq
  size_eq := by rw [hb.entities_eq, List.size_toArray, hlength]
  entity := by
    intro i hi
    rw [← hlength] at hi
    have hget := List.getElem?_eq_getElem hi
    refine ⟨es[i], ?_, hes i _ hget⟩
    rw [hb.getElem?_entities, hget]
  slots_eq := hb.slots_uniform huniform
  rows_eq := by rw [hb.rows_eq, hb.slots_uniform huniform, hlength]
  epochs_eq := hb.epochs_eq
  total_eq := by rw [hb.total_uniform huniform, hlength]

theorem mapError_eq_ok {ε ε' α : Type} {x : Except ε α} {f : ε → ε'} {a : α} :
    x.mapError f = .ok a ↔ x = .ok a := by
  cases x with
  | error e => exact iff_of_false nofun nofun
  | ok b =>
    show Except.ok b = Except.ok a ↔ _
    rw [Except.ok.injEq, Except.ok.injEq]

/-- a fleet that was made passed all checks -/
theorem makes_of_fleet {s : Attributes} {f : Fleet}
    (hoffset : c.offset.toNat + c.entityCount.toNat ≤ 2 ^ 64)
    (hrows : c.entityCount.toNat * c.measurements < 2 ^ 64)
    (h : ((c.fleet regions).run.run s).1 = some (.ok f)) :
    ∃ w, c.Buildable regions w ∧ c.Makes regions w f := by
  have hcomes := c.comes_fleet regions s
  rw [h] at hcomes
  generalize hmade : some (Except.ok f) = made at hcomes
  cases hcomes with
  | refused hcheck => exact nomatch hmade
  | unplaced hcheck hplaced fault => exact nomatch hmade
  | @built w hcheck hplaced =>
    obtain ⟨es, hrun, hlength, huniform, hes⟩ := answers_describes w hplaced hoffset s
    rw [hrun, Option.map_some, Option.some.injEq, eq_comm, mapError_eq_ok] at hmade
    rw [← hlength] at hrows
    have hb := Fleet.built_of_ofEntities hmade (huniform.countable hrows)
    have hfits := hb.fits huniform
    rw [hlength] at hfits
    exact ⟨w, buildable_iff.2 ⟨hplaced, hcheck, hfits⟩, makes_of_built hb hlength huniform hes⟩

/-- settings that pass all checks make a fleet -/
theorem fleet_of_buildable (s : Attributes)
    (hoffset : c.offset.toNat + c.entityCount.toNat ≤ 2 ^ 64)
    (hrows : c.entityCount.toNat * c.measurements < 2 ^ 64) (h : c.Buildable regions w) :
    ∃ f, ((c.fleet regions).run.run s).1 = some (.ok f) := by
  obtain ⟨hplaced, hcheck, hfits⟩ := buildable_iff.1 h
  have hcomes := c.comes_fleet regions s
  generalize ((c.fleet regions).run.run s).1 = made at hcomes
  cases hcomes with
  | refused hcheck' =>
    rw [hcheck] at hcheck'
    exact nomatch hcheck'
  | unplaced hcheck' hplaced' => exact absurd hplaced hplaced'
  | @built w' hcheck' =>
    rw [hcheck] at hcheck'
    obtain rfl := Except.ok.inj hcheck'
    obtain ⟨es, hrun, hlength, huniform, -⟩ := answers_describes w hplaced hoffset s
    rw [← hlength] at hfits hrows
    have hpos : 0 < es.length := hlength ▸ h.count_pos
    obtain ⟨f, hf⟩ := hfits.ofEntities huniform hpos (measurements_pos hplaced.fleet) hrows
    refine ⟨f, ?_⟩
    rw [hrun, Option.map_some, mapError_eq_ok.2 hf]

theorem refuses_of_fleet {s : Attributes} {e : Fault}
    (h : ((c.fleet regions).run.run s).1 = some (.error e)) : c.Refuses e := by
  have hcomes := c.comes_fleet regions s
  rw [h] at hcomes
  generalize hmade : some (Except.error e) = made at hcomes
  cases hcomes with
  | refused hcheck =>
    obtain rfl := Except.error.inj (Option.some.inj hmade)
    exact refuses_of_check hcheck
  | unplaced hcheck hplaced fault =>
    obtain rfl := Except.error.inj (Option.some.inj hmade)
    obtain ⟨hstart, hstop⟩ := window_eq_ok_iff.1 (check_eq_ok_iff.1 hcheck).1
    exact .setting hstart hstop fault
  | @built w hcheck hplaced =>
    obtain ⟨hstart, hstop⟩ := window_eq_ok_iff.1 (check_eq_ok_iff.1 hcheck).1
    obtain ⟨es, -, hresult⟩ := Option.map_eq_some_iff.1 hmade.symm
    generalize Fleet.ofEntities es w c.interval = result at hresult
    cases result with
    | ok f => exact nomatch hresult
    | error fault =>
      obtain rfl := Except.error.inj hresult
      exact .setting hstart hstop fault

/-- there is no answer exactly where entities are built and the last identity number is no word -/
theorem fleet_eq_none_iff (s : Attributes) :
    ((c.fleet regions).run.run s).1 = none ↔
      (∃ w, c.check = .ok w) ∧ c.Placed regions ∧
        2 ^ 64 < c.offset.toNat + c.entityCount.toNat := by
  have hcomes := c.comes_fleet regions s
  generalize ((c.fleet regions).run.run s).1 = made at hcomes
  cases hcomes with
  | refused hcheck =>
    refine iff_of_false nofun fun ⟨⟨w, hcheck'⟩, _⟩ => ?_
    rw [hcheck] at hcheck'
    exact nomatch hcheck'
  | unplaced hcheck hplaced fault => exact iff_of_false nofun fun h => hplaced h.2.1
  | @built w hcheck hplaced =>
    rw [Option.map_eq_none_iff]
    rcases Nat.lt_or_ge (2 ^ 64) (c.offset.toNat + c.entityCount.toNat) with hlong | hoffset
    · exact iff_of_true (lost_entities w regions hplaced.fleet hlong s)
        ⟨⟨w, hcheck⟩, hplaced, hlong⟩
    · obtain ⟨es, hrun, -⟩ := answers_entities w regions hplaced.fleet hoffset s
      refine iff_of_false ?_ fun h => Nat.not_lt_of_le hoffset h.2.2
      rw [hrun]
      exact nofun

end

/-- the default settings pass all checks -/
theorem buildable_default :
    ({} : Config).Buildable .builtIn ⟨1451606400000000000, 1451692800000000000⟩ :=
  ⟨.inl rfl, rfl, rfl, by decide, by decide, by decide, by decide, by decide, nofun, by decide⟩

/-- **Which settings make a fleet.**  Where the identity numbers fit a word and the rows of one epoch
can be counted, there is always an answer.  It is a fleet exactly for the settings that pass all
checks, and then the fleet that they describe.  All others are refused: for an instant without a
timestamp, or for a setting.  The entities that are built on the way, for a fleet or for nothing,
have exact numbers.  (Whether there is memory for them is left aside.) -/
theorem fleet_iff (c : Config) (regions : RegionTable) (s : Attributes)
    (hoffset : c.offset.toNat + c.entityCount.toNat ≤ 2 ^ 64)
    (hrows : c.entityCount.toNat * c.measurements < 2 ^ 64) :
    ((c.fleet regions).run.run s).1 ≠ none ∧
    ((∃ f, ((c.fleet regions).run.run s).1 = some (.ok f)) ↔ ∃ w, c.Buildable regions w) ∧
    (∀ f, ((c.fleet regions).run.run s).1 = some (.ok f) →
      ∃ w, c.Buildable regions w ∧ c.Makes regions w f) ∧
    (∀ e, ((c.fleet regions).run.run s).1 = some (.error e) → c.Refuses e) ∧
    ∀ w, c.check = .ok w → c.Placed regions →
      ∃ es, ((c.entities w regions).run.run s).1 = some es ∧
        ∀ (i : Nat) e, es[i]? = some e → c.Describes regions w i e := by
  refine ⟨?_, ⟨?_, ?_⟩, fun f hf => makes_of_fleet hoffset hrows hf,
    fun e he => refuses_of_fleet he, ?_⟩
  · intro hnone
    obtain ⟨-, -, hlong⟩ := (fleet_eq_none_iff s).1 hnone
    omega
  · rintro ⟨f, hf⟩
    obtain ⟨w, hbuildable, -⟩ := makes_of_fleet hoffset hrows hf
    exact ⟨w, hbuildable⟩
  · rintro ⟨w, hbuildable⟩
    exact fleet_of_buildable s hoffset hrows hbuildable
  · intro w _ hplaced
    obtain ⟨es, hrun, -, -, hes⟩ := answers_describes w hplaced hoffset s
    exact ⟨es, hrun, hes⟩

/-- the default settings: a hundred hosts with eight measurements each, for a day -/
theorem fleet_iff_default :
    (({} : Config).offset.toNat + ({} : Config).entityCount.toNat ≤ 2 ^ 64 ∧
      ({} : Config).entityCount.toNat * ({} : Config).measurements < 2 ^ 64) ∧
    ∃ f, ((({} : Config).fleet .builtIn).run.run ⟨0⟩).1 = some (.ok f) ∧
      f.total.toNat = 6912000 := by
  have hoffset : ({} : Config).offset.toNat + ({} : Config).entityCount.toNat ≤ 2 ^ 64 := by decide
  have hrows : ({} : Config).entityCount.toNat * ({} : Config).measurements < 2 ^ 64 := by decide
  obtain ⟨-, hiff, hmakes, -, -⟩ := fleet_iff {} .builtIn ⟨0⟩ hoffset hrows
  obtain ⟨f, hf⟩ := hiff.2 ⟨_, buildable_default⟩
  obtain ⟨w, hw, hf'⟩ := hmakes f hf
  have hstart := Option.some.inj (hw.start_eq.symm.trans buildable_default.start_eq)
  have hstop := Option.some.inj (hw.stop_eq.symm.trans buildable_default.stop_eq)
  refine ⟨⟨hoffset, hrows⟩, f, hf, ?_⟩
  rw [hf'.total_eq, hstart, hstop]
  rfl

end Config

end Telemetry
