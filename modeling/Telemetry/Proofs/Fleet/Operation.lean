import Telemetry.Proofs.Fleet.Alike
import Telemetry.Proofs.Fleet.Place

/-!
# Operations in any order

Rows, queries, reports of stored rows and new templates may be asked of a fleet in any order.  Only
the number of calls of `next` decides what the next row is and how far the fleet says it is.

* `Op`, `perform`, `performAll`  what may be asked, and the fleet after it;
* `width`, `valuesBefore`        the values of one row and of the first rows;
* `Come f j g`                   the invariant: `g` is a state of `f` after `j` calls of `next`;
* `Come.next_row`, `Come.next_past`  the next call, below the total and past it;
* `Come.perform`                 one operation keeps it;
* `performAll_progress`          what every run of operations comes to.
-/

namespace Telemetry.Fleet

open Telemetry.Random

/-- what may be asked of a fleet -/
inductive Op where
  | next (p : Point)
  | query (sink : Sink)
  | written (count : UInt64)
  | install (templates : List String) (times : Nat)

/-- the fleet after an operation; templates that are refused leave it as it is -/
def perform (f : Fleet) : Op → Draw Fleet
  | .next p => return (← f.next p).2.2
  | .query sink => return (← f.nextQuery sink).2.2
  | .written count => return f.setWritten count
  | .install templates times =>
    match f.install templates times with
    | .ok f' => return f'
    | .error _ => return f

/-- the fleet after some operations in order -/
def performAll (f : Fleet) : List Op → Draw Fleet
  | [] => return f
  | op :: ops => do (← f.perform op).performAll ops

/-- the number of calls of `next` that an operation is -/
def Op.nexts : Op → Nat
  | .next _ => 1
  | _ => 0

/-- the number of calls of `next` among some operations -/
def nexts (ops : List Op) : Nat := (ops.map Op.nexts).sum

theorem nexts_cons (op : Op) (ops : List Op) : nexts (op :: ops) = op.nexts + nexts ops :=
  List.sum_cons

/-! ## the values of rows -/

/-- the number of values in row number `i` of entities with `M` slots each -/
def width (entities : List Entity) (M i : Nat) : Nat :=
  ((entities[i / M % entities.length]?).bind fun e => e.generators[i % M]?).elim 0
    (·.kind.fieldKeys.length)

/-- the number of values in the rows before row number `n` -/
def valuesBefore (entities : List Entity) (M n : Nat) : Nat :=
  ((List.range n).map (width entities M)).sum

theorem valuesBefore_succ (entities : List Entity) (M n : Nat) :
    valuesBefore entities M (n + 1) = valuesBefore entities M n + width entities M n := by
  rw [valuesBefore, List.range_succ, List.map_append, List.sum_append, List.map_singleton,
    List.sum_singleton, valuesBefore]

theorem width_eq {entities : List Entity} {M i : Nat} {e : Entity} {gen : Generator}
    (he : entities[i / M % entities.length]? = some e) (hgen : e.generators[i % M]? = some gen) :
    width entities M i = gen.kind.fieldKeys.length := by
  rw [width, he, Option.bind_some, hgen, Option.elim_some]

/-! ## operations that make no row -/

theorem nextQuery_run (f : Fleet) (sink : Sink) (s : Stream) :
    ∃ n, ((f.nextQuery sink).run s).1.2.2 = { f with queries := n } := by
  unfold nextQuery
  split
  · exact ⟨f.queries, rfl⟩
  · exact ⟨f.queries + 1, rfl⟩

theorem install_eq_ok {f f' : Fleet} {templates : List String} {times : Nat}
    (h : f.install templates times = .ok f') : ∃ ts, f' = { f with templates := ts } := by
  unfold install at h
  split at h
  · exact absurd h (by simp)
  · cases hparse : parseAll f.tagKeys times templates with
    | error e =>
      rw [hparse] at h
      exact absurd h (by simp [Except.map])
    | ok ts =>
      rw [hparse] at h
      exact ⟨ts, (Except.ok.inj h).symm⟩

/-! ## the invariant -/

/-- the state of a fleet of some entities after `j` calls of `next` -/
structure Come (entities : List Entity) (f : Fleet) (j : Nat) (g : Fleet) : Prop where
  alike : Alike f g
  made_eq : g.made.toNat = j
  values_eq : g.values = (valuesBefore entities f.slots.toNat (min j f.total.toNat)).toUInt64

section
variable {entities : List Entity} {window : Window} {interval : Duration} {f g h : Fleet} {j : Nat}

theorem Built.come (hb : Built entities window interval f) : Come entities f 0 f where
  alike := Alike.refl f
  made_eq := by rw [hb.made_eq, UInt64.toNat_zero]
  values_eq := by
    rw [hb.values_eq, Nat.zero_min]
    rfl

theorem Come.frame (hcome : Come entities f j g) (ha : Alike g h) (hmade : h.made = g.made)
    (hvalues : h.values = g.values) : Come entities f j h where
  alike := hcome.alike.trans ha
  made_eq := by rw [hmade, hcome.made_eq]
  values_eq := by rw [hvalues, hcome.values_eq]

/-- the place of the next row -/
theorem Come.place_next (hb : Built entities window interval f) (hcome : Come entities f j g)
    (hj : j < f.total.toNat) :
    ∃ k : UInt64, k.toNat = j / (entities.length * f.slots.toNat) ∧ k < f.epochs ∧
      f.place g.made = ⟨j / f.slots.toNat % entities.length, j % f.slots.toNat, k⟩ := by
  have hlt : g.made < f.total := by rwa [UInt64.lt_iff_toNat_lt, hcome.made_eq]
  have hplace := hb.place_eq g.made
  have hepoch := hb.toNat_place_epoch g.made
  have hlast := (hb.place_lt hlt).2.2
  rw [hplace] at hepoch hlast
  rw [hcome.made_eq] at hepoch hlast hplace
  exact ⟨_, hepoch, hlast, hplace⟩

/-- a row below the total: its number, what it adds to the point, and the state after it -/
theorem Come.next_below (hb : Built entities window interval f) (hcome : Come entities f j g)
    (hj : j < f.total.toNat) {e : Entity} {gen : Generator}
    (he : entities[j / f.slots.toNat % entities.length]? = some e)
    (hgen : e.generators[j % f.slots.toNat]? = some gen) (p : Point) (s : Stream) :
    ∃ number row h s', (g.next p).run s = ((number, row, h), s') ∧ number.toNat = j + 1 ∧
      Adds e gen row.timestamp p row ∧
      row.timestamp.toInt = window.start.toInt
        + (j / (entities.length * f.slots.toNat) : Nat) * interval.toNanos ∧
      Come entities f (j + 1) h := by
  have htotal := f.total.toNat_lt_size
  have hlt : g.made.toNat < f.total.toNat := by rwa [hcome.made_eq]
  have hnumber : (g.made + 1).toNat = j + 1 := by
    rw [Word.toNat_succ (by omega), hcome.made_eq]
  obtain ⟨k, hk, hlast, hplace⟩ := hcome.place_next hb hj
  have he' : f.entities[(f.place g.made).entity]? = some e := by
    rw [hplace, hb.getElem?_entities, he]
  have hgen' : e.generators[(f.place g.made).slot]? = some gen := by
    rw [hplace, hgen]
  obtain ⟨row, h, s', hrun, hadds, halike, hmade, hvalues⟩ :=
    hcome.alike.next_adds hlt he' hgen' p s
  have htime := hadds.timestamp_eq
  refine ⟨_, row, h, s', hrun, hnumber, ?_, ?_, halike, ?_, ?_⟩
  · rw [htime]
    exact hadds
  · rw [htime, hplace, hb.toInt_epochTime hlast, hk]
  · rw [hmade, hnumber]
  · rw [hvalues, hcome.values_eq, Nat.min_eq_left hj, Nat.min_eq_left (Nat.le_of_lt hj),
      valuesBefore_succ, width_eq he hgen]
    exact (UInt64.ofNat_add _ _).symm

/-- the row that a call below the total makes: its entity and generator, as they are by then, and the
fleet and the draws after it -/
theorem Come.next_row (hb : Built entities window interval f) (hcome : Come entities f j g)
    (hj : j < f.total.toNat) (p : Point) (s : Stream) :
    ∃ e gen k n, g.entities[j / f.slots.toNat % entities.length]? = some e ∧
      (e.advanceTo k f.interval).generators[j % f.slots.toNat]? = some gen ∧
      k.toNat = j / (entities.length * f.slots.toNat) ∧ k < f.epochs ∧
      (g.next p).run s
        = ((g.made + 1, rowOf e gen (f.epochTime k) p s,
            g.count.store (j / f.slots.toNat % entities.length)
              ((e.advanceTo k f.interval).after (j % f.slots.toNat) gen s) n),
          (gen.advance.run s).2) := by
  have htotal := f.total.toNat_lt_size
  have hmade := hcome.made_eq
  have halike := hcome.alike
  have hpast : ¬ g.total < g.made + 1 := by
    rw [halike.total, UInt64.lt_iff_toNat_lt, Word.toNat_succ (by omega)]
    omega
  obtain ⟨k, hk, hlast, hplace⟩ := hcome.place_next hb hj
  obtain ⟨e₀, gen₀, he₀, hgen₀⟩ := hb.exists_row j
  obtain ⟨e, he, hlayout⟩ := halike.entity ((hb.getElem?_entities _).trans he₀)
  have hticked := (e.layout_advanceTo k f.interval).trans hlayout
  obtain ⟨gen, hgen, -⟩ := Entity.generator_of_layout hticked hgen₀
  refine ⟨e, gen, k, gen.kind.fieldKeys.length, he, hgen, hk, hlast, ?_⟩
  rw [← halike.epochTime, ← halike.interval]
  rw [← halike.interval] at hgen
  exact Fleet.next_row hpast ((halike.place g.made).trans hplace) he hgen p s

/-- past the total a call changes its number only -/
theorem Come.next_past (hcome : Come entities f j g) (hle : f.total.toNat ≤ j)
    (hj : j + 1 < UInt64.size) (p : Point) (s : Stream) :
    (g.next p).run s = ((g.made + 1, p, g.count), s) ∧ (g.made + 1).toNat = j + 1 ∧
      Come entities f (j + 1) g.count := by
  have hmade := hcome.made_eq
  have hnumber : (g.made + 1).toNat = j + 1 := by
    rw [Word.toNat_succ (by omega), hmade]
  refine ⟨hcome.alike.next_counts (by omega) (by omega) p s, hnumber, ?_⟩
  refine ⟨hcome.alike.trans (Alike.count g), hnumber, ?_⟩
  show g.values = _
  rw [hcome.values_eq, Nat.min_eq_right hle, Nat.min_eq_right (by omega)]

theorem perform_next (g : Fleet) (p : Point) (s : Stream) :
    (g.perform (.next p)).run s = (((g.next p).run s).1.2.2, ((g.next p).run s).2) := rfl

/-- **One operation** keeps the invariant, and counts where it is a call of `next`. -/
theorem Come.perform (hb : Built entities window interval f) (hcome : Come entities f j g) (op : Op)
    (hj : j + op.nexts < UInt64.size) (s : Stream) :
    Come entities f (j + op.nexts) ((g.perform op).run s).1 := by
  cases op with
  | next p =>
    rcases Nat.lt_or_ge j f.total.toNat with hlt | hle
    · obtain ⟨e, gen, he, hgen⟩ := hb.exists_row j
      obtain ⟨number, row, h, s', hrun, -, -, -, hcome'⟩ := hcome.next_below hb hlt he hgen p s
      rw [perform_next, hrun]
      exact hcome'
    · obtain ⟨hrun, -, hcome'⟩ := hcome.next_past hle hj p s
      rw [perform_next, hrun]
      exact hcome'
  | query sink =>
    obtain ⟨n, hn⟩ := nextQuery_run g sink s
    have hperform : ((g.perform (.query sink)).run s).1 = ((g.nextQuery sink).run s).1.2.2 := rfl
    rw [hperform, hn]
    exact hcome.frame ⟨rfl, rfl, rfl, rfl, rfl, rfl, rfl, rfl, rfl⟩ rfl rfl
  | written count => exact hcome.frame ⟨rfl, rfl, rfl, rfl, rfl, rfl, rfl, rfl, rfl⟩ rfl rfl
  | install templates times =>
    cases hinstall : g.install templates times with
    | error why =>
      have hperform : g.perform (.install templates times) = return g := by
        rw [Fleet.perform, hinstall]
      rw [hperform]
      exact hcome
    | ok g' =>
      have hperform : g.perform (.install templates times) = return g' := by
        rw [Fleet.perform, hinstall]
      obtain ⟨ts, rfl⟩ := install_eq_ok hinstall
      rw [hperform]
      exact hcome.frame ⟨rfl, rfl, rfl, rfl, rfl, rfl, rfl, rfl, rfl⟩ rfl rfl

theorem Come.performAll (hb : Built entities window interval f) (hcome : Come entities f j g)
    (ops : List Op) (hj : j + nexts ops < UInt64.size) (s : Stream) :
    Come entities f (j + nexts ops) ((g.performAll ops).run s).1 := by
  induction ops generalizing j g s with
  | nil => exact hcome
  | cons op ops ih =>
    rw [nexts_cons] at hj ⊢
    have hstep := hcome.perform hb op (by omega) s
    have hrest := ih hstep (by omega) ((g.perform op).run s).2
    rw [Nat.add_assoc] at hrest
    exact hrest

theorem Come.toNat_seenPoints (hcome : Come entities f j g) :
    g.seenPoints.toNat = min j f.total.toNat := by
  rw [seenPoints, hcome.alike.total, ← hcome.made_eq]
  show (if g.made ≤ f.total then g.made else f.total).toNat = _
  split
  · rename_i hle
    rw [Nat.min_eq_left (UInt64.le_iff_toNat_le.1 hle)]
  · rename_i hle
    rw [UInt64.le_iff_toNat_le] at hle
    rw [Nat.min_eq_right (by omega)]

theorem Come.finished_iff (hcome : Come entities f j g) :
    g.finished = true ↔ f.total.toNat ≤ j := by
  rw [finished, decide_eq_true_eq, UInt64.le_iff_toNat_le, hcome.toNat_seenPoints,
    hcome.alike.total]
  omega

/-- **Every run of operations** from an accepted fleet, with `j` calls of `next` in it, leaves a
fleet that has seen `min j total` rows and the values of just these, that is finished from `total`
calls on, and whose next call, which is not cut off, answers `j + 1`: it adds row number `j` to the
point, or past the total changes nothing but the number. -/
theorem performAll_progress (hacc : ofEntities entities window interval = .ok f)
    (hc : Countable entities) (ops : List Op) (hops : nexts ops < UInt64.size) (s : Stream) :
    (∀ e ∈ entities, e.generators.length = f.slots.toNat) ∧
    ∃ g s', (f.performAll ops).run s = (g, s') ∧
      g.seenPoints.toNat = min (nexts ops) f.total.toNat ∧
      (g.finished = true ↔ f.total.toNat ≤ nexts ops) ∧
      (∀ more, nexts ops + nexts more < UInt64.size → g.finished = true →
        ((g.performAll more).run s').1.finished = true) ∧
      (valuesBefore entities f.slots.toNat (min (nexts ops) f.total.toNat) < UInt64.size →
        g.values.toNat = valuesBefore entities f.slots.toNat (min (nexts ops) f.total.toNat)) ∧
      (nexts ops + 1 < UInt64.size → ∀ p, ∃ number row h s'',
        (g.next p).run s' = ((number, row, h), s'') ∧
        (g.next? p).run.run s' = (some (number, row, h), s'') ∧ number.toNat = nexts ops + 1 ∧
        (nexts ops < f.total.toNat → ∃ e gen,
          entities[nexts ops / f.slots.toNat % entities.length]? = some e ∧
          e.generators[nexts ops % f.slots.toNat]? = some gen ∧
          Adds e gen row.timestamp p row ∧
          row.timestamp.toInt = window.start.toInt
            + (nexts ops / (entities.length * f.slots.toNat) : Nat) * interval.toNanos) ∧
        (f.total.toNat ≤ nexts ops → row = p ∧ h = { g with made := number } ∧ s'' = s')) := by
  have hb := built_of_ofEntities hacc hc
  have hcome := hb.come.performAll hb ops (by rwa [Nat.zero_add]) s
  rw [Nat.zero_add] at hcome
  refine ⟨hb.slots_eq, ?_⟩
  generalize (f.performAll ops).run s = reached at hcome
  obtain ⟨g, s'⟩ := reached
  refine ⟨g, s', rfl, hcome.toNat_seenPoints, hcome.finished_iff, ?_, ?_, ?_⟩
  · intro more hmore hfinished
    have hlater := hcome.performAll hb more hmore s'
    rw [hcome.finished_iff] at hfinished
    exact hlater.finished_iff.2 (Nat.le_add_right_of_le hfinished)
  · intro hvalues
    rw [hcome.values_eq]
    exact Word.toNat_toUInt64_of_lt hvalues
  · intro hnext p
    have hmade : g.made.toNat + 1 < UInt64.size := by rwa [hcome.made_eq]
    have hcall := next?_run hmade p s'
    rcases Nat.lt_or_ge (nexts ops) f.total.toNat with hlt | hle
    · obtain ⟨e, gen, he, hgen⟩ := hb.exists_row (nexts ops)
      obtain ⟨number, row, h, s'', hrun, hnumber, hadds, htime, -⟩ :=
        hcome.next_below hb hlt he hgen p s'
      rw [hrun] at hcall
      refine ⟨number, row, h, s'', hrun, hcall, hnumber,
        fun _ => ⟨e, gen, he, hgen, hadds, htime⟩, ?_⟩
      intro hle
      omega
    · obtain ⟨hrun, hnumber, -⟩ := hcome.next_past hle hnext p s'
      rw [hrun] at hcall
      refine ⟨_, _, _, _, hrun, hcall, hnumber, ?_, fun _ => ⟨rfl, rfl, rfl⟩⟩
      intro hlt
      omega

/-- two hosts and three epochs: six rows, of which five operations make two -/
theorem performAll_progress_two_hosts :
    ∃ f, ofEntities twoHosts ⟨0, 3000000000⟩ (.ofSeconds 1) = .ok f ∧ f.total = 6 ∧
      ∃ g s', (f.performAll [.next {}, .install [] 1, .query {}, .written 7, .next {}]).run ⟨1⟩
          = (g, s') ∧ g.seenPoints.toNat = min 2 f.total.toNat ∧
        (g.finished = true ↔ f.total.toNat ≤ 2) := by
  obtain ⟨f, hacc, htotal⟩ := accepted_twoHosts
  obtain ⟨-, g, s', hrun, hseen, hfinished, -⟩ := performAll_progress hacc countable_twoHosts
    [.next {}, .install [] 1, .query {}, .written 7, .next {}] (by decide) ⟨1⟩
  exact ⟨f, hacc, htotal, g, s', hrun, hseen, hfinished⟩

end

end Telemetry.Fleet
