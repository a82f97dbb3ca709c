import Telemetry.Proofs.Fleet.Times

/-!
# What is known to be stored

A store reports how many rows it holds, in any order and as often as it likes; the largest report
counts.  From it a fleet tells the time up to which all its rows are stored.

* `reported`           the largest report among some operations;
* `performAll_keeps`   a run of operations leaves a state of the same fleet, and what it takes for
                       stored is the largest report;
* `boundary`           the time up to which all rows are stored, by the number of complete epochs;
* `Built.toInt_now`    `now` is that time;
* `now_separates`      it never goes back, and it separates the rows of the complete epochs from all
                       others.
-/

namespace Telemetry.Fleet

open Telemetry.Random

/-! ## reports -/

/-- the number of rows that an operation reports as stored -/
def Op.reports : Op → Nat
  | .written count => count.toNat
  | .next _ | .query _ | .install _ _ => 0

/-- the largest number of rows that was reported as stored, and zero without a report -/
def reported : List Op → Nat
  | [] => 0
  | op :: ops => max op.reports (reported ops)

/-- an operation leaves a state of the same fleet, and only a report moves what is stored -/
theorem perform_keeps (f : Fleet) (op : Op) (s : Stream) :
    Alike f ((f.perform op).run s).1 ∧
      ((f.perform op).run s).1.written.toNat = max f.written.toNat op.reports := by
  cases op with
  | next p =>
    rw [perform_next]
    exact ⟨alike_next f p s, by rw [written_next]; exact (Nat.max_zero _).symm⟩
  | query sink =>
    obtain ⟨n, hn⟩ := nextQuery_run f sink s
    have hperform : ((f.perform (.query sink)).run s).1 = { f with queries := n } := hn
    rw [hperform]
    exact ⟨Alike.counters f _ _ _ _ _, (Nat.max_zero _).symm⟩
  | written count => exact ⟨Alike.setWritten f count, Word.toNat_max _ _⟩
  | install templates times =>
    cases hinstall : f.install templates times with
    | error why =>
      have hperform : f.perform (.install templates times) = return f := by
        rw [Fleet.perform, hinstall]
      rw [hperform]
      exact ⟨Alike.refl f, (Nat.max_zero _).symm⟩
    | ok g =>
      have hperform : f.perform (.install templates times) = return g := by
        rw [Fleet.perform, hinstall]
      obtain ⟨ts, rfl⟩ := install_eq_ok hinstall
      rw [hperform]
      exact ⟨Alike.counters f _ _ _ _ _, (Nat.max_zero _).symm⟩

theorem performAll_keeps (f : Fleet) (ops : List Op) (s : Stream) :
    Alike f ((f.performAll ops).run s).1 ∧
      ((f.performAll ops).run s).1.written.toNat = max f.written.toNat (reported ops) := by
  induction ops generalizing f s with
  | nil => exact ⟨Alike.refl f, (Nat.max_zero _).symm⟩
  | cons op ops ih =>
    obtain ⟨halike, hwritten⟩ := perform_keeps f op s
    obtain ⟨hrest, hlater⟩ := ih ((f.perform op).run s).1 ((f.perform op).run s).2
    refine ⟨halike.trans hrest, hlater.trans ?_⟩
    rw [hwritten, reported, Nat.max_assoc]

/-! ## the boundary -/

/-- the instant up to which all rows are stored, once `q` epochs are stored completely -/
def boundary (window : Window) (interval : Duration) (epochs q : Nat) : Int :=
  if epochs ≤ q then window.stop.toInt else instant window interval q

section
variable {entities : List Entity} {window : Window} {interval : Duration} {f g h : Fleet}

theorem Built.toNat_stored (hb : Built entities window interval f) (ha : Alike f g) :
    (g.written / g.rowsPerEpoch).toNat
      = g.written.toNat / (entities.length * f.slots.toNat) := by
  rw [UInt64.toNat_div, ha.rowsPerEpoch, hb.rows_eq]

theorem Built.toInt_now (hb : Built entities window interval f) (ha : Alike f g) :
    g.now.toInt = boundary window interval f.epochs.toNat
      (g.written.toNat / (entities.length * f.slots.toNat)) := by
  have hstored := hb.toNat_stored ha
  have hwindow : g.window = window := by rw [ha.window, hb.window_eq]
  have hiff : g.epochs ≤ g.written / g.rowsPerEpoch ↔
      f.epochs.toNat ≤ (g.written / g.rowsPerEpoch).toNat := by
    rw [ha.epochs, UInt64.le_iff_toNat_le]
  rw [← hstored]
  unfold now boundary
  simp only
  by_cases hall : g.epochs ≤ g.written / g.rowsPerEpoch
  · rw [if_pos hall, if_pos (hiff.1 hall), hwindow]
  · have hk : (g.written / g.rowsPerEpoch).toNat < f.epochs.toNat := by
      rw [hiff] at hall
      omega
    have htime := hb.toInt_epochTime (UInt64.lt_iff_toNat_lt.2 hk)
    have hstop := hb.epoch_lt_stop hk
    have hle : f.epochTime (g.written / g.rowsPerEpoch) ≤ window.stop := by
      rw [Int64.le_iff_toInt_le]
      omega
    rw [if_neg hall, if_neg (by omega), ha.epochTime, hwindow]
    show (if f.epochTime (g.written / g.rowsPerEpoch) ≤ window.stop then
      f.epochTime (g.written / g.rowsPerEpoch) else window.stop).toInt = _
    rw [if_pos hle, htime, instant]

theorem Built.boundary_mono (hb : Built entities window interval f) {q r : Nat} (h : q ≤ r) :
    boundary window interval f.epochs.toNat q ≤ boundary window interval f.epochs.toNat r := by
  unfold boundary
  by_cases hr : f.epochs.toNat ≤ r
  · rw [if_pos hr]
    by_cases hq : f.epochs.toNat ≤ q
    · rw [if_pos hq]
    · rw [if_neg hq]
      exact Int.le_of_lt (hb.epoch_lt_stop (by omega))
  · rw [if_neg hr, if_neg (by omega)]
    exact instant_mono window interval h

theorem Built.boundary_mem (hb : Built entities window interval f) (q : Nat) :
    window.start.toInt ≤ boundary window interval f.epochs.toNat q ∧
      boundary window interval f.epochs.toNat q ≤ window.stop.toInt := by
  have hfirst : boundary window interval f.epochs.toNat 0 = window.start.toInt := by
    rw [boundary, if_neg (by have := hb.epochs_pos; omega), instant, Nat.cast_zero, Int.zero_mul,
      Int.add_zero]
  have hlast : boundary window interval f.epochs.toNat (max q f.epochs.toNat)
      = window.stop.toInt := if_pos (Nat.le_max_right _ _)
  constructor
  · rw [← hfirst]
    exact hb.boundary_mono (Nat.zero_le q)
  · rw [← hlast]
    exact hb.boundary_mono (Nat.le_max_left _ _)

/-- row number `j` is before the boundary exactly where its epoch is stored completely -/
theorem Built.instant_lt_boundary_iff (hb : Built entities window interval f) {j q p : Nat}
    (hp : 0 < p) (hj : j < f.epochs.toNat * p) :
    instant window interval (j / p) < boundary window interval f.epochs.toNat q ↔
      j + 1 ≤ min q f.epochs.toNat * p := by
  unfold boundary
  by_cases hq : f.epochs.toNat ≤ q
  · have hepoch : j / p < f.epochs.toNat := Nat.div_lt_of_lt_mul (by rwa [Nat.mul_comm])
    rw [if_pos hq, Nat.min_eq_right hq]
    exact iff_of_true (hb.epoch_lt_stop hepoch) hj
  · have hmono : instant window interval (j / p) < instant window interval q ↔ j / p < q := by
      constructor
      · intro hlt
        by_contra hle
        have := instant_mono window interval (Nat.le_of_not_lt hle)
        omega
      · intro hlt
        have hle := instant_mono window interval (Nat.le_of_lt hlt)
        have hne : instant window interval (j / p) ≠ instant window interval q := fun h =>
          absurd (instant_injective window hb.interval_pos h) (by omega)
        omega
    rw [if_neg hq, hmono, Nat.min_eq_left (by omega), Nat.div_lt_iff_lt_mul hp]
    rfl

theorem next_number (f : Fleet) (p : Point) (s : Stream) :
    ((f.next p).run s).1.1 = f.made + 1 := by
  rw [next_eq]
  split <;> rfl

/-- the time of the next row of a state, while there is one -/
theorem Built.next_time (hb : Built entities window interval f) (ha : Alike f g)
    (hlt : g.made.toNat < f.total.toNat) (p : Point) (s : Stream) :
    ((g.next p).run s).1.2.1.timestamp.toInt
      = instant window interval (g.made.toNat / (entities.length * f.slots.toNat)) := by
  have hplace := hb.place_eq g.made
  have hepoch := (hb.place_lt (UInt64.lt_iff_toNat_lt.2 hlt)).2.2
  obtain ⟨e, gen, he, hgen⟩ := hb.exists_row g.made.toNat
  have he' : f.entities[(f.place g.made).entity]? = some e := by
    rw [hplace, hb.getElem?_entities, he]
  have hgen' : e.generators[(f.place g.made).slot]? = some gen := by
    rw [hplace, hgen]
  obtain ⟨row, h, s', hrun, hadds, -⟩ := ha.next_adds hlt he' hgen' p s
  rw [hrun]
  show row.timestamp.toInt = _
  rw [hadds.timestamp_eq, hb.toInt_epochTime hepoch, hb.toNat_place_epoch, instant]

theorem Alike.exactTime (ha : Alike f g) {k : UInt64} (h : ExactTime f k) : ExactTime g k where
  epoch_eq := h.epoch_eq
  product_eq := by rw [ha.intervalNanos, h.product_eq]
  sum_eq := by rw [ha.epochTime, ha.window, ha.intervalNanos, h.sum_eq]

/-- a row of one state is before the boundary of another exactly where its number is among the
complete epochs of what is stored there -/
theorem Built.next_lt_now_iff (hb : Built entities window interval f) (ha : Alike f g)
    (hh : Alike f h) {p : Point} {s : Stream} (hpos : 1 ≤ ((h.next p).run s).1.1.toNat)
    (hle : ((h.next p).run s).1.1.toNat ≤ f.total.toNat) :
    ((h.next p).run s).1.2.1.timestamp < g.now ↔ ((h.next p).run s).1.1.toNat
      ≤ min (g.written.toNat / (entities.length * f.slots.toNat)) f.epochs.toNat
        * (entities.length * f.slots.toNat) := by
  have hp : 0 < entities.length * f.slots.toNat := Nat.mul_pos hb.entities_pos hb.slots_pos
  rw [next_number] at hpos hle ⊢
  have hmade : (h.made + 1).toNat = h.made.toNat + 1 := by
    have hpred := Word.toNat_pred hpos
    rw [UInt64.add_sub_cancel] at hpred
    omega
  have hlt : h.made.toNat < f.total.toNat := by omega
  have hrow : h.made.toNat < f.epochs.toNat * (entities.length * f.slots.toNat) := by
    rwa [hb.total_eq, hb.rows_eq, Nat.mul_comm] at hlt
  rw [Int64.lt_iff_toInt_lt, hb.next_time hh hlt, hb.toInt_now ha, hmade]
  exact hb.instant_lt_boundary_iff hp hrow

/-- **The boundary of what is stored** after any operations, of which `w` is the largest report.  It
lies within the window, is computed without overflow and never goes back.  A row, asked for in
whatever run, is before it exactly where its number is among the complete epochs of the first `w`
rows. -/
theorem now_separates (hacc : ofEntities entities window interval = .ok f)
    (hc : Countable entities) (ops : List Op) (s : Stream) :
    (∀ e ∈ entities, e.generators.length = f.slots.toNat) ∧
    ∃ g s', (f.performAll ops).run s = (g, s') ∧
      window.start ≤ g.now ∧ g.now ≤ window.stop ∧
      0 < g.rowsPerEpoch.toNat ∧
      (g.written / g.rowsPerEpoch < g.epochs → ExactTime g (g.written / g.rowsPerEpoch)) ∧
      (∀ more, g.now ≤ ((g.performAll more).run s').1.now) ∧
      ∀ calls t p, ∃ number row h t',
        (((f.performAll calls).run t).1.next p).run ((f.performAll calls).run t).2
          = ((number, row, h), t') ∧
        (nexts calls < f.total.toNat → number.toNat = nexts calls + 1) ∧
        (1 ≤ number.toNat → number.toNat ≤ f.total.toNat →
          (row.timestamp < g.now ↔ number.toNat
            ≤ min (reported ops / (entities.length * f.slots.toNat)) f.epochs.toNat
              * (entities.length * f.slots.toNat))) := by
  have hb := built_of_ofEntities hacc hc
  obtain ⟨halike, hwritten⟩ := performAll_keeps f ops s
  rw [hb.written_eq, UInt64.toNat_zero, Nat.zero_max] at hwritten
  refine ⟨hb.slots_eq, ?_⟩
  generalize (f.performAll ops).run s = reached at halike hwritten
  obtain ⟨g, s'⟩ := reached
  have hwritten : g.written.toNat = reported ops := hwritten
  have hnow := hb.toInt_now halike
  have hmem := hb.boundary_mem (g.written.toNat / (entities.length * f.slots.toNat))
  rw [← hnow] at hmem
  refine ⟨g, s', rfl, Int64.le_iff_toInt_le.2 hmem.1, Int64.le_iff_toInt_le.2 hmem.2, ?_, ?_, ?_, ?_⟩
  · rw [halike.rowsPerEpoch, hb.rows_eq]
    exact Nat.mul_pos hb.entities_pos hb.slots_pos
  · intro hlt
    rw [halike.epochs] at hlt
    exact halike.exactTime (hb.exactTime hlt)
  · intro more
    obtain ⟨hmore, hlater⟩ := performAll_keeps g more s'
    rw [Int64.le_iff_toInt_le, hnow, hb.toInt_now (halike.trans hmore), hlater]
    exact hb.boundary_mono (Nat.div_le_div_right (Nat.le_max_left _ _))
  · intro calls t p
    obtain ⟨hcalls, -⟩ := performAll_keeps f calls t
    have hcome := fun hj => (hb.come.performAll hb calls hj t).made_eq
    generalize (f.performAll calls).run t = before at hcalls hcome
    obtain ⟨h, t'⟩ := before
    refine ⟨((h.next p).run t').1.1, ((h.next p).run t').1.2.1, ((h.next p).run t').1.2.2,
      ((h.next p).run t').2, rfl, ?_, ?_⟩
    · intro hlt
      have htotal := f.total.toNat_lt_size
      have hmade : h.made.toNat = nexts calls := by
        rw [← Nat.zero_add (nexts calls)]
        exact hcome (by omega)
      rw [next_number, Word.toNat_succ (by omega), hmade]
    · intro hpos hle
      rw [← hwritten]
      exact hb.next_lt_now_iff halike hcalls hpos hle

/-- two hosts and three epochs of two rows: with five rows reported, two epochs are complete, and the
fifth row is not before the boundary -/
theorem now_separates_two_hosts :
    ∃ f, ofEntities twoHosts ⟨0, 3000000000⟩ (.ofSeconds 1) = .ok f ∧
      ∃ g s', (f.performAll [.written 5, .next {}, .written 3]).run ⟨1⟩ = (g, s') ∧
        g.now ≤ ((g.performAll [.written 18446744073709551615]).run s').1.now ∧
        ∃ number row h t',
          (((f.performAll [.next {}, .next {}, .query {}, .next {}, .next {}]).run ⟨2⟩).1.next {}).run
              ((f.performAll [.next {}, .next {}, .query {}, .next {}, .next {}]).run ⟨2⟩).2
            = ((number, row, h), t') ∧ number.toNat = 5 ∧ ¬ row.timestamp < g.now := by
  have hacc : ∃ f, ofEntities twoHosts ⟨0, 3000000000⟩ (.ofSeconds 1) = .ok f ∧ f.total = 6 ∧
      f.slots = 1 ∧ f.epochs = 3 := ⟨_, rfl, by decide, by decide, by decide⟩
  obtain ⟨f, hacc, htotal, hslots, hepochs⟩ := hacc
  obtain ⟨-, g, s', hrun, -, -, -, -, hmono, hrows⟩ :=
    now_separates hacc countable_twoHosts [.written 5, .next {}, .written 3] ⟨1⟩
  obtain ⟨number, row, h, t', hnext, hnumber, hiff⟩ :=
    hrows [.next {}, .next {}, .query {}, .next {}, .next {}] ⟨2⟩ {}
  have hfive : number.toNat = 5 := hnumber (by rw [htotal]; decide)
  refine ⟨f, hacc, g, s', hrun, hmono _, number, row, h, t', hnext, hfive, ?_⟩
  rw [hiff (by omega) (by rw [hfive, htotal]; decide), hfive, hslots, hepochs]
  decide

end

end Telemetry.Fleet
