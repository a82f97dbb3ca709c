import Mathlib.Data.List.Range
import Telemetry.Proofs.Grid.Calls

/-!
# Times of a grid

Rows are a whole number of nanoseconds apart: the window in equal parts, rounded down, but one at
least.  A time is computed in words with a sign; where it or the time since the start has no word,
the call is cut off.  The number of a row is made a word with a sign before that, and wraps.

* `Built.step_of_le`, `Built.step_of_lt`  the step where the window has a nanosecond for each row,
                          and where it has not;
* `instant plan g i`      the time of row number `i`, in the integers;
* `Built.time?_of_lt`     the time of a row whose number is a word with a sign, and
                          `Built.time?_half` that of the first row whose number is none;
* `ExactTime g i`         no step of the computation of a time wraps or is cut off;
* `times_fill_window`     with a nanosecond for each row the rows divide the window;
* `LastFits plan g`       the last row has a number and a time that are words with a sign;
* `exact_times_iff`       in general the rows run past the end of the window, and there is a run of
                          all of them, with exact times, where the last one fits;
* `lastNanosecond`        three rows in the last nanosecond that there is.
-/

namespace Telemetry.Grid

open Telemetry.Random

section
variable {plan : Plan} {g : Grid}

/-! ## the step -/

/-- with a nanosecond for each row, the rows leave less of the window than there are rows -/
theorem Built.step_of_le (hb : Built plan g)
    (h : plan.points.toNat ≤ plan.window.stop.toInt - plan.window.start.toInt) :
    0 ≤ plan.window.stop.toInt - (plan.window.start.toInt + plan.points.toNat * g.step.toInt) ∧
      plan.window.stop.toInt - (plan.window.start.toInt + plan.points.toNat * g.step.toInt)
        < plan.points.toNat := by
  have hpoints := hb.points_pos
  have hquotient : 1 ≤ (plan.window.stop.toInt - plan.window.start.toInt) / plan.points.toNat :=
    (Int.le_ediv_iff_mul_le (by omega)).2 (by omega)
  have hstep := hb.step_eq
  rw [Int.max_eq_left hquotient] at hstep
  have hdivision := Int.mul_ediv_add_emod (plan.window.stop.toInt - plan.window.start.toInt)
    plan.points.toNat
  have hnonneg := Int.emod_nonneg (plan.window.stop.toInt - plan.window.start.toInt)
    (b := plan.points.toNat) (by omega)
  have hlt := Int.emod_lt_of_pos (plan.window.stop.toInt - plan.window.start.toInt)
    (b := plan.points.toNat) (by omega)
  rw [hstep]
  omega

theorem Built.step_of_lt (hb : Built plan g)
    (h : plan.window.stop.toInt - plan.window.start.toInt < plan.points.toNat) :
    g.step.toInt = 1 := by
  have hlt := hb.start_lt_stop
  rw [hb.step_eq, Int.ediv_eq_zero_of_lt (by omega) h]
  rfl

theorem Built.step_pos (hb : Built plan g) : 1 ≤ g.step.toInt := by
  rw [hb.step_eq]
  exact Int.le_max_right _ _

/-! ## one time -/

/-- the time of row number `i`, in the integers -/
def instant (plan : Plan) (g : Grid) (i : Nat) : Int :=
  plan.window.start.toInt + i * g.step.toInt

theorem instant_zero (plan : Plan) (g : Grid) : instant plan g 0 = plan.window.start.toInt := by
  unfold instant
  omega

theorem instant_succ (plan : Plan) (g : Grid) (i : Nat) :
    instant plan g (i + 1) = instant plan g i + g.step.toInt := by
  unfold instant
  rw [Int.natCast_succ, Int.add_mul, Int.one_mul, Int.add_assoc]

theorem Built.instant_lt (hb : Built plan g) {i j : Nat} (h : i < j) :
    instant plan g i < instant plan g j := by
  have hmul : (i : Int) * g.step.toInt < j * g.step.toInt :=
    Int.mul_lt_mul_of_pos_right (by omega) hb.step_pos
  unfold instant
  omega

theorem Built.instant_le (hb : Built plan g) {i j : Nat} (h : i ≤ j) :
    instant plan g i ≤ instant plan g j := by
  rcases Nat.eq_or_lt_of_le h with rfl | hlt
  · exact Int.le_refl _
  · exact Int.le_of_lt (hb.instant_lt hlt)

theorem Built.le_instant (hb : Built plan g) (i : Nat) :
    plan.window.start.toInt ≤ instant plan g i := by
  rw [← instant_zero plan g]
  exact hb.instant_le (Nat.zero_le i)

/-- the product with the step has a word where the row number has one -/
theorem Built.product_lt (hb : Built plan g) {i : Nat} (hi : i < plan.points.toNat)
    (hlt : i < 9223372036854775808) : (i : Int) * g.step.toInt < 9223372036854775808 := by
  by_cases h : plan.points.toNat ≤ plan.window.stop.toInt - plan.window.start.toInt
  · -- the product is within the window
    have hspan := hb.span_lt
    have hrest := (hb.step_of_le h).1
    have hmul : (i : Int) * g.step.toInt ≤ plan.points.toNat * g.step.toInt :=
      Int.mul_le_mul_of_nonneg_right (by omega) (Int.le_of_lt hb.step_pos)
    omega
  · rw [hb.step_of_lt (Int.not_le.1 h)]
    omega

/-- the time of a row, where the product of its number with the step has a word -/
theorem Built.time?_eq (hb : Built plan g) {i : UInt64} {passed : Int}
    (hpassed : i.toInt64.toInt * g.step.toInt = passed) (hlower : -9223372036854775808 ≤ passed)
    (hupper : passed < 9223372036854775808) :
    g.time? i = Word.signed? (plan.window.start.toInt + passed) := by
  obtain ⟨w, hw⟩ := Word.exists_signed? hlower hupper
  rw [time?, hpassed, hw, hb.start_eq, ← Word.signed?_eq_some.1 hw]
  rfl

theorem Built.time?_of_lt (hb : Built plan g) {i : Nat} (hi : i < plan.points.toNat)
    (hlt : i < 9223372036854775808) :
    g.time? i.toUInt64 = Word.signed? (instant plan g i) := by
  have hpoints := plan.points.toNat_lt_size
  have hword : i.toUInt64.toNat = i := Word.toNat_toUInt64_of_lt (by omega)
  have hindex : i.toUInt64.toInt64.toInt = i := by
    rw [Word.toInt_toInt64_of_lt (by omega), hword]
  have hnonneg : 0 ≤ (i : Int) * g.step.toInt :=
    Int.mul_nonneg (by omega) (Int.le_of_lt hb.step_pos)
  exact hb.time?_eq (by rw [hindex]) (by omega) (hb.product_lt hi hlt)

/-- the first row whose number has no word with a sign: the number wraps -/
theorem Built.time?_half (hb : Built plan g) (h : 9223372036854775808 < plan.points.toNat) :
    g.time? 9223372036854775808
      = Word.signed? (plan.window.start.toInt + -9223372036854775808) := by
  have hspan := hb.span_lt
  have hstep := hb.step_of_lt (by omega)
  refine hb.time?_eq ?_ (by decide) (by decide)
  rw [hstep]
  decide

/-- the time of row number `i` comes out right: its number is a word with a sign, and so are the
time since the start and the time -/
structure ExactTime (g : Grid) (i : UInt64) : Prop where
  index_eq : i.toInt64.toInt = i.toNat
  time_eq : ∃ t, g.time? i = some t ∧ t.toInt = g.start.toInt + i.toNat * g.step.toInt

theorem Built.exactTime_iff (hb : Built plan g) {i : UInt64} (hi : i < plan.points) :
    g.ExactTime i ↔ i.toNat < 9223372036854775808 ∧
      instant plan g i.toNat < 9223372036854775808 := by
  have hlt := UInt64.lt_iff_toNat_lt.1 hi
  have hle := hb.le_instant i.toNat
  have hstart := plan.window.start.le_toInt
  constructor
  · rintro ⟨hindex, t, -, htime⟩
    have hsigned := i.toInt64.toInt_lt
    have hword := t.toInt_lt
    rw [hb.start_eq] at htime
    exact ⟨by omega, by rw [instant, ← htime]; exact hword⟩
  · rintro ⟨hhalf, hinstant⟩
    have htime := hb.time?_of_lt hlt hhalf
    obtain ⟨t, ht⟩ := Word.exists_signed? (i := instant plan g i.toNat) (by omega) hinstant
    rw [show i.toNat.toUInt64 = i from UInt64.ofNat_toNat, ht] at htime
    refine ⟨Word.toInt_toInt64_of_lt hhalf, t, htime, ?_⟩
    rw [Word.signed?_eq_some.1 ht, hb.start_eq]
    rfl

/-- the time of a row whose number and time fit -/
theorem Built.toInt_timeAt (hb : Built plan g) {i : Nat} (hi : i < plan.points.toNat)
    (hlt : i < 9223372036854775808) (hinstant : instant plan g i < 9223372036854775808) :
    g.time? i.toUInt64 ≠ none ∧ (g.timeAt i).toInt = instant plan g i := by
  have hle := hb.le_instant i
  have hstart := plan.window.start.le_toInt
  obtain ⟨t, ht⟩ := Word.exists_signed? (i := instant plan g i) (by omega) hinstant
  rw [timeAt, hb.time?_of_lt hi hlt, ht]
  exact ⟨Option.some_ne_none t, Word.signed?_eq_some.1 ht⟩

/-! ## the times of all rows -/

/-- two lists of which only the first, which is no longer, is looked at -/
theorem zipWith_left {α β γ : Type} (f : α → γ) {xs : List α} {ys : List β}
    (h : xs.length ≤ ys.length) : List.zipWith (fun x _ => f x) xs ys = xs.map f := by
  induction xs generalizing ys with
  | nil => rfl
  | cons x xs ih =>
    cases ys with
    | nil => exact absurd h (Nat.not_succ_le_zero _)
    | cons y ys => rw [List.zipWith_cons_cons, ih (Nat.le_of_succ_le_succ h), List.map_cons]

theorem times_answers (g : Grid) (ps : List Point) (s : Stream) :
    ((g.answers 0 s ps).take g.total.toNat).map (·.2.timestamp.toInt)
      = (List.range (min ps.length g.total.toNat)).map (fun i => (g.timeAt i).toInt) := by
  have hlength : (List.range (min ps.length g.total.toNat)).length ≤ ps.length := by
    rw [List.length_range]
    exact Nat.min_le_left _ _
  rw [← zipWith_left (fun i => (g.timeAt i).toInt) hlength]
  exact map_take_answers (·.timestamp.toInt) (fun i _ => (g.timeAt i).toInt)
    (fun _ _ _ _ => rfl) ps s

/-- the calls of a new grid whose rows have a time, and the times of the rows among their answers -/
theorem Built.calls_times (hb : Built plan g) (ps : List Point) (s : Stream)
    (hlt : ps.length < UInt64.size) (htimed : g.Timed 0 ps.length) :
    ∃ rows g' s', (g.calls ps).run.run s = (some (rows, g'), s') ∧ rows.length = ps.length ∧
      (rows.take plan.points.toNat).map (·.2.timestamp.toInt)
        = (List.range (min ps.length plan.points.toNat)).map (fun i => (g.timeAt i).toInt) := by
  have hrun := calls_run g ps 0 s (by omega) htimed
  have htimes := times_answers g ps s
  rw [come_zero hb] at hrun
  rw [hb.total_eq] at htimes
  exact ⟨_, _, _, hrun, length_answers g 0 s ps, htimes⟩

/-! ## a nanosecond for each row -/

theorem Built.instant_lt_stop (hb : Built plan g)
    (h : plan.points.toNat ≤ plan.window.stop.toInt - plan.window.start.toInt) {i : Nat}
    (hi : i < plan.points.toNat) : instant plan g i < plan.window.stop.toInt := by
  have hlt := hb.instant_lt hi
  have hrest : 0 ≤ plan.window.stop.toInt - instant plan g plan.points.toNat := (hb.step_of_le h).1
  omega

/-- **Rows that divide a window.**  Where the window has a nanosecond for each row, no call is cut
off, all rows lie in the window, one step of at least a nanosecond apart, and what they leave of it is
not enough to make the step longer. -/
theorem times_fill_window (h : build plan = .ok g)
    (hfit : plan.points.toNat ≤ plan.window.stop.toInt - plan.window.start.toInt) :
    1 ≤ g.step.toInt ∧
    0 ≤ plan.window.stop.toInt - instant plan g plan.points.toNat ∧
    plan.window.stop.toInt - instant plan g plan.points.toNat < plan.points.toNat ∧
    (∀ i < plan.points, g.ExactTime i) ∧
    ∀ (ps : List Point) (s : Stream), ps.length < UInt64.size → ∃ rows g' s',
      (g.calls ps).run.run s = (some (rows, g'), s') ∧ rows.length = ps.length ∧
      (rows.take plan.points.toNat).map (·.2.timestamp.toInt)
        = (List.range (min ps.length plan.points.toNat)).map (instant plan g) ∧
      (∀ r ∈ rows.take plan.points.toNat, plan.window.contains r.2.timestamp = true) ∧
      ((rows.take plan.points.toNat).map (·.2.timestamp.toInt)).IsChain
        (fun t t' => t' - t = g.step.toInt) := by
  have hb := built_of_build h
  have hpoints := plan.points.toNat_lt_size
  have hstop := plan.window.stop.toInt_lt
  obtain ⟨hnonneg, hlt⟩ := hb.step_of_le hfit
  have hspan := hb.span_lt
  refine ⟨hb.step_pos, hnonneg, hlt, ?_, ?_⟩
  · intro i hi
    have hinstant := hb.instant_lt_stop hfit (UInt64.lt_iff_toNat_lt.1 hi)
    rw [UInt64.lt_iff_toNat_lt] at hi
    exact (hb.exactTime_iff (UInt64.lt_iff_toNat_lt.2 hi)).2 ⟨by omega, by omega⟩
  · intro ps s hps
    have hrow : ∀ i < plan.points.toNat, g.time? i.toUInt64 ≠ none ∧
        (g.timeAt i).toInt = instant plan g i := by
      intro i hi
      have hinstant := hb.instant_lt_stop hfit hi
      exact hb.toInt_timeAt hi (by omega) (by omega)
    obtain ⟨rows, g', s', hrun, hlength, htimes⟩ := hb.calls_times ps s hps
      (fun i _ _ hi => (hrow i (by rwa [hb.total_eq] at hi)).1)
    have hexact : (rows.take plan.points.toNat).map (·.2.timestamp.toInt)
        = (List.range (min ps.length plan.points.toNat)).map (instant plan g) := by
      rw [htimes]
      refine List.map_congr_left fun i hi => ?_
      rw [List.mem_range] at hi
      exact (hrow i (by omega)).2
    refine ⟨rows, g', s', hrun, hlength, hexact, ?_, ?_⟩
    · intro r hr
      have hmem := List.mem_map_of_mem (f := (·.2.timestamp.toInt)) hr
      rw [hexact] at hmem
      obtain ⟨i, hi, htime⟩ := List.mem_map.1 hmem
      rw [List.mem_range] at hi
      have hstart := hb.le_instant i
      have hinstant := hb.instant_lt_stop hfit (i := i) (by omega)
      unfold Window.contains
      rw [Bool.and_eq_true, decide_eq_true_eq, decide_eq_true_eq, Int64.le_iff_toInt_le,
        Int64.lt_iff_toInt_lt]
      omega
    · rw [hexact, List.isChain_map, List.isChain_range]
      intro i _
      rw [Nat.succ_eq_add_one, instant_succ]
      omega

/-- three rows in the longest window from the least time on, of which a nanosecond is left -/
theorem times_fill_window_longest :
    ∃ g, build { points := 3, window := ⟨-9223372036854775808, -1⟩ } = .ok g ∧
      (((3 : UInt64).toNat : Int) ≤ (-1 : Int64).toInt - (-9223372036854775808 : Int64).toInt) ∧
      g.step = 3074457345618258602 ∧ ∀ i < (3 : UInt64), g.ExactTime i := by
  have hbuild : ∃ g, build { points := 3, window := ⟨-9223372036854775808, -1⟩ } = .ok g ∧
      g.step = 3074457345618258602 := ⟨_, rfl, by decide⟩
  obtain ⟨g, hg, hstep⟩ := hbuild
  have hfit : ((3 : UInt64).toNat : Int)
      ≤ (-1 : Int64).toInt - (-9223372036854775808 : Int64).toInt := by decide
  obtain ⟨-, -, -, hexact, -⟩ := times_fill_window hg hfit
  exact ⟨g, hg, hfit, hstep, hexact⟩

/-! ## any number of rows -/

/-- the last row has a number and a time that are words with a sign -/
def LastFits (plan : Plan) (g : Grid) : Prop :=
  plan.points.toNat ≤ 9223372036854775808 ∧
    instant plan g (plan.points.toNat - 1) < 9223372036854775808

/-- where the last row fits, all rows have their exact times -/
theorem LastFits.row (hb : Built plan g) (hfits : LastFits plan g) {i : Nat}
    (hi : i < plan.points.toNat) :
    g.time? i.toUInt64 ≠ none ∧ (g.timeAt i).toInt = instant plan g i := by
  obtain ⟨hpoints, hlast⟩ := hfits
  have hle := hb.instant_le (i := i) (j := plan.points.toNat - 1) (by omega)
  exact hb.toInt_timeAt hi (by omega) (by omega)

/-- the time of the first row whose number wraps is less than that of row number zero -/
theorem Built.half_lt_start (hb : Built plan g) (h : 9223372036854775808 < plan.points.toNat)
    (htime : g.time? 9223372036854775808 ≠ none) :
    (g.timeAt 9223372036854775808).toInt < (g.timeAt 0).toInt := by
  have hstart := plan.window.start.toInt_lt
  have hfirst := hb.toInt_timeAt hb.points_pos (by decide)
    (by rw [instant_zero]; exact hstart)
  obtain ⟨t, ht⟩ := Option.ne_none_iff_exists'.1 htime
  have hword := ht
  rw [hb.time?_half h, Word.signed?_eq_some] at hword
  have hhalf : g.timeAt 9223372036854775808 = t := by
    rw [timeAt]
    exact congrArg (·.getD 0) ht
  rw [hfirst.2, instant_zero, hhalf, hword]
  omega

/-- a run of all rows with times that go up has a last row that fits -/
theorem Built.lastFits_of_increasing (hb : Built plan g) (htimed : g.Timed 0 plan.points.toNat)
    (h : ((List.range plan.points.toNat).map fun i => (g.timeAt i).toInt).Pairwise (· < ·)) :
    LastFits plan g := by
  have hpos := hb.points_pos
  have hrow : ∀ i < plan.points.toNat, g.time? i.toUInt64 ≠ none := fun i hi =>
    htimed i (Nat.zero_le i) (by omega) (by rwa [hb.total_eq])
  have hhalf : plan.points.toNat ≤ 9223372036854775808 := by
    by_contra hlong
    have hlt := hb.half_lt_start (Nat.not_le.1 hlong) (hrow 9223372036854775808 (Nat.not_le.1 hlong))
    have hordered := List.pairwise_iff_getElem.1 h 0 9223372036854775808
      (by rw [List.length_map, List.length_range]; exact hpos)
      (by rw [List.length_map, List.length_range]; omega) (by decide)
    rw [List.getElem_map, List.getElem_map, List.getElem_range, List.getElem_range] at hordered
    omega
  refine ⟨hhalf, ?_⟩
  have htime := hb.time?_of_lt (i := plan.points.toNat - 1) (by omega) (by omega)
  obtain ⟨t, ht⟩ := Option.ne_none_iff_exists'.1 (hrow (plan.points.toNat - 1) (by omega))
  have hlt := t.toInt_lt
  rw [htime, Word.signed?_eq_some] at ht
  omega

theorem Built.exactTimes_iff (hb : Built plan g) :
    (∀ i < plan.points, g.ExactTime i) ↔ LastFits plan g := by
  have hpos := hb.points_pos
  constructor
  · intro hexact
    have hlast : (plan.points - 1).toNat = plan.points.toNat - 1 := Word.toNat_pred hpos
    have hlt : plan.points - 1 < plan.points := by
      rw [UInt64.lt_iff_toNat_lt, hlast]
      omega
    obtain ⟨hindex, hinstant⟩ := (hb.exactTime_iff hlt).1 (hexact _ hlt)
    rw [hlast] at hindex hinstant
    exact ⟨by omega, hinstant⟩
  · rintro ⟨hle, hlast⟩ i hi
    have hi' := UInt64.lt_iff_toNat_lt.1 hi
    have hmono := hb.instant_le (i := i.toNat) (j := plan.points.toNat - 1) (by omega)
    exact (hb.exactTime_iff hi).2 ⟨by omega, Int.lt_of_le_of_lt hmono hlast⟩

theorem Built.instants_increase (hb : Built plan g) :
    ((List.range plan.points.toNat).map (instant plan g)).Pairwise (· < ·) := by
  rw [List.pairwise_map]
  exact List.pairwise_lt_range.imp fun hij => hb.instant_lt hij

/-! ## as many calls as there are rows -/

section
variable {ps : List Point} {s s' : Stream}

theorem Built.run_of_timed (hb : Built plan g) (hps : ps.length = plan.points.toNat)
    (htimed : g.Timed 0 plan.points.toNat) (s : Stream) :
    ∃ rows g' s', (g.calls ps).run.run s = (some (rows, g'), s') ∧
      rows.map (·.2.timestamp.toInt)
        = (List.range plan.points.toNat).map fun i => (g.timeAt i).toInt := by
  have hpoints := plan.points.toNat_lt_size
  rw [← hps] at htimed
  obtain ⟨rows, g', s', hrun, hlength, htimes⟩ := hb.calls_times ps s (by omega) htimed
  rw [hps] at hlength htimes
  rw [List.take_of_length_le (Nat.le_of_eq hlength), Nat.min_self] at htimes
  exact ⟨rows, g', s', hrun, htimes⟩

/-- only where every row has a time, there is a run -/
theorem Built.timed_of_run (hb : Built plan g) {out : List (UInt64 × Point) × Grid}
    (hps : ps.length = plan.points.toNat) (hrun : (g.calls ps).run.run s = (some out, s')) :
    g.Timed 0 plan.points.toNat := by
  have hpoints := plan.points.toNat_lt_size
  by_contra hmissing
  rw [← hps] at hmissing
  have hlost := calls_lost g ps 0 s (by omega) hmissing
  rw [come_zero hb, hrun] at hlost
  exact nomatch hlost

theorem LastFits.run (hb : Built plan g) (hfits : LastFits plan g)
    (hps : ps.length = plan.points.toNat) (s : Stream) :
    ∃ rows g' s', (g.calls ps).run.run s = (some (rows, g'), s') ∧
      rows.map (·.2.timestamp.toInt) = (List.range plan.points.toNat).map (instant plan g) := by
  have htimed : g.Timed 0 plan.points.toNat := fun i _ _ hi =>
    (hfits.row hb (by rwa [hb.total_eq] at hi)).1
  obtain ⟨rows, g', s', hrun, hrows⟩ := hb.run_of_timed hps htimed s
  refine ⟨rows, g', s', hrun, hrows.trans (List.map_congr_left fun i hi => ?_)⟩
  exact (hfits.row hb (List.mem_range.1 hi)).2

theorem Built.lastFits_of_run (hb : Built plan g) (hps : ps.length = plan.points.toNat)
    {rows : List (UInt64 × Point)} {g' : Grid}
    (hrun : (g.calls ps).run.run s = (some (rows, g'), s'))
    (hrising : (rows.map (·.2.timestamp.toInt)).Pairwise (· < ·)) : LastFits plan g := by
  have htimed := hb.timed_of_run hps hrun
  obtain ⟨rows', g'', s'', hrun', hrows⟩ := hb.run_of_timed hps htimed s
  rw [hrun, Prod.mk.injEq, Option.some.injEq, Prod.mk.injEq] at hrun'
  obtain ⟨⟨rfl, -⟩, -⟩ := hrun'
  rw [hrows] at hrising
  exact hb.lastFits_of_increasing htimed hrising

end

/-- **Times of any number of rows.**  All rows of a grid are made, with their exact times, and these
go up, just where the last of them fits; there is no check of that. -/
theorem exact_times_iff (h : build plan = .ok g) :
    ((∀ i < plan.points, g.ExactTime i) ↔ LastFits plan g) ∧
    ∀ (ps : List Point) (s : Stream), ps.length = plan.points.toNat →
      ((∃ rows g' s', (g.calls ps).run.run s = (some (rows, g'), s') ∧
          rows.map (·.2.timestamp.toInt) = (List.range plan.points.toNat).map (instant plan g)) ↔
        LastFits plan g) ∧
      ((∃ rows g' s', (g.calls ps).run.run s = (some (rows, g'), s') ∧
          (rows.map (·.2.timestamp.toInt)).Pairwise (· < ·)) ↔
        LastFits plan g) := by
  have hb := built_of_build h
  have hrising := hb.instants_increase
  refine ⟨hb.exactTimes_iff, fun ps s hps => ⟨⟨?_, fun hfits => hfits.run hb hps s⟩, ?_, ?_⟩⟩
  · rintro ⟨rows, g', s', hrun, hrows⟩
    exact hb.lastFits_of_run hps hrun (by rw [hrows]; exact hrising)
  · rintro ⟨rows, g', s', hrun, hincreasing⟩
    exact hb.lastFits_of_run hps hrun hincreasing
  · intro hfits
    obtain ⟨rows, g', s', hrun, hrows⟩ := hfits.run hb hps s
    exact ⟨rows, g', s', hrun, by rw [hrows]; exact hrising⟩

/-- a thousand rows in ten nanoseconds run past the window, and their times go up -/
theorem exact_times_iff_dense :
    ∃ g, build { axis := 2, points := 1000, window := ⟨0, 10⟩ } = .ok g ∧
      (List.replicate 1000 ({} : Point)).length = (1000 : UInt64).toNat ∧
      ∃ rows g' s', (g.calls (List.replicate 1000 {})).run.run ⟨1⟩ = (some (rows, g'), s') ∧
        (rows.map (·.2.timestamp.toInt)).Pairwise (· < ·) := by
  have hbuild : ∃ g, build { axis := 2, points := 1000, window := ⟨0, 10⟩ } = .ok g ∧
      g.step = 1 := ⟨_, rfl, by decide⟩
  obtain ⟨g, hg, hstep⟩ := hbuild
  have hlength : (List.replicate 1000 ({} : Point)).length = (1000 : UInt64).toNat :=
    List.length_replicate
  refine ⟨g, hg, hlength, ((exact_times_iff hg).2 _ ⟨1⟩ hlength).2.2 ⟨by decide, ?_⟩⟩
  rw [instant, hstep]
  decide

end

/-- three rows that start in the last nanosecond that there is -/
def lastNanosecond : Plan :=
  { axis := 1, points := 3, window := ⟨9223372036854775806, 9223372036854775807⟩ }

/-- there is a grid and there are two rows, but no word for the time of the third one, whose call is
cut off -/
theorem not_increasing_lastNanosecond :
    ∃ g, build lastNanosecond = .ok g ∧ instant lastNanosecond g 2 = 9223372036854775808 ∧
      (∃ rows g' s', (g.calls [{}, {}]).run.run ⟨1⟩ = (some (rows, g'), s') ∧
        rows.map (·.2.timestamp.toInt) = [9223372036854775806, 9223372036854775807]) ∧
      ((g.calls [{}, {}, {}]).run.run ⟨1⟩).1 = none :=
  ⟨_, rfl, by decide, ⟨_, _, _, rfl, rfl⟩, rfl⟩

end Telemetry.Grid
