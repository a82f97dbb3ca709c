import Telemetry.Grid
import Telemetry.Proofs.Random.Draw
import Telemetry.Proofs.Word

/-!
# Calls of a grid

What a grid is when it has just been built, and what any number of calls of `next` come to.

* `Built plan g`        a grid that was just built from a plan, in natural numbers and integers;
* `come g j`            the grid after `j` calls: only the number of calls has changed;
* `answer`, `draws`     the point that one call answers, and the draws that it takes;
* `calls`, `answers`    calls in a row, each with a point of its own, and what they answer;
* `Timed g j n`         the rows among some calls have a time;
* `calls_run`           the run of such calls: answers, grid and draws;
* `calls_lost`          all other runs are cut off;
* `map_take_answers`    what the rows among the answers show, row by row.
-/

namespace Telemetry.Grid

open Telemetry.Random

/-! ## building -/

/-- a grid that was just built from a plan -/
structure Built (plan : Plan) (g : Grid) : Prop where
  axis_eq : g.axis = plan.axis
  axis_pos : 0 < plan.axis.toNat
  total_eq : g.total = plan.points
  points_pos : 0 < plan.points.toNat
  start_eq : g.start = plan.window.start
  start_lt_stop : plan.window.start.toInt < plan.window.stop.toInt
  span_lt : plan.window.stop.toInt - plan.window.start.toInt < 9223372036854775808
  step_eq : g.step.toInt = max
    ((plan.window.stop.toInt - plan.window.start.toInt) / plan.points.toNat) 1
  made_eq : g.made = 0

theorem toInt_stepOf {span points : UInt64} (h : span.toNat < 9223372036854775808) :
    (stepOf span points).toInt = max ((span.toNat : Int) / points.toNat) 1 := by
  have hle : span.toNat / points.toNat ≤ span.toNat := Nat.div_le_self _ _
  have hmax : (max (span / points) 1).toNat = max (span.toNat / points.toNat) 1 := by
    rw [Word.toNat_max, UInt64.toNat_div]
    rfl
  rw [stepOf, Word.toInt_toInt64_of_lt (by rw [hmax]; omega), hmax]
  omega

theorem built_of_build {plan : Plan} {g : Grid} (h : build plan = .ok g) : Built plan g := by
  unfold build at h
  split at h
  · exact nomatch h
  rename_i haxis
  split at h
  · exact nomatch h
  rename_i hpoints
  split at h
  · exact nomatch h
  rename_i hwindow
  have hlt := Window.not_isEmpty_iff.1 hwindow
  cases hspan : plan.window.length? with
  | none =>
    rw [hspan] at h
    exact nomatch h
  | some span =>
    rw [hspan] at h
    obtain rfl := Except.ok.inj h
    have hlength : span.toInt = plan.window.stop.toInt - plan.window.start.toInt :=
      Word.signed?_eq_some.1 hspan
    have hword := Word.toNat_toUInt64_of_nonneg (w := span) (by omega)
    have hbound := span.toInt_lt
    refine
      { axis_eq := rfl
        axis_pos := Word.toNat_pos_iff.2 haxis
        total_eq := rfl
        points_pos := Word.toNat_pos_iff.2 hpoints
        start_eq := rfl
        start_lt_stop := hlt
        span_lt := by omega
        step_eq := ?_
        made_eq := rfl }
    rw [← hlength, ← hword]
    exact toInt_stepOf (by omega)

/-! ## one call -/

/-- the grid after `j` calls -/
def come (g : Grid) (j : Nat) : Grid := { g with made := j.toUInt64 }

/-- the time of row number `j`, for a row that has one -/
def timeAt (g : Grid) (j : Nat) : Int64 := (g.time? j.toUInt64).getD 0

/-- the point that the call after `j` calls answers: with a row, as long as there is one -/
def answer (g : Grid) (j : Nat) (p : Point) (s : Stream) : Point :=
  if j < g.total.toNat then g.fill j.toUInt64 (g.timeAt j) ((unit.run s).1 * 100.0) p else p

/-- the number of draws that `n` calls after `j` calls take -/
def draws (g : Grid) (j n : Nat) : Nat := min (j + n) g.total.toNat - min j g.total.toNat

theorem draws_zero (g : Grid) (j : Nat) : g.draws j 0 = 0 := Nat.sub_self _

theorem draws_succ (g : Grid) (j n : Nat) :
    g.draws j (n + 1) = g.draws j 1 + g.draws (j + 1) n := by
  unfold draws
  omega

theorem come_zero {plan : Plan} {g : Grid} (hb : Built plan g) : g.come 0 = g := by
  have hmade := hb.made_eq
  cases g
  rw [come, Grid.mk.injEq]
  exact ⟨rfl, rfl, rfl, hmade.symm, rfl⟩

theorem toUInt64_succ (j : Nat) : j.toUInt64 + 1 = (j + 1).toUInt64 := by
  apply UInt64.toNat_inj.1
  rw [UInt64.toNat_add]
  show (j % UInt64.size + 1) % UInt64.size = (j + 1) % UInt64.size
  rw [Nat.mod_add_mod]

theorem next_eq (g : Grid) {j : Nat} (hj : j + 1 < UInt64.size) (p : Point) :
    (g.come j).next p = if j < g.total.toNat then (g.come (j + 1)).rowAt (j + 1).toUInt64 p
      else return ((j + 1).toUInt64, p, g.come (j + 1)) := by
  have hword : j.toUInt64.toNat = j := Word.toNat_toUInt64_of_lt (Nat.lt_of_succ_lt hj)
  have hsum : Word.add? (g.come j).made 1 = some (j + 1).toUInt64 := by
    rw [← toUInt64_succ]
    exact Word.add?_eq_some (by rwa [show (g.come j).made.toNat = j from hword])
  have hpast : g.total < (j + 1).toUInt64 ↔ ¬ j < g.total.toNat := by
    rw [UInt64.lt_iff_toNat_lt, Word.toNat_toUInt64_of_lt hj]
    omega
  rw [next, hsum]
  show (if g.total < (j + 1).toUInt64 then _ else _) = _
  rw [ite_congr (propext hpast) (fun _ => rfl) (fun _ => rfl), ite_not]
  rfl

/-- **One call.**  It answers the next number; it makes a row and takes a draw as long as there is a
row, and else it does nothing to the point and the stream. -/
theorem next_run (g : Grid) {j : Nat} (hj : j + 1 < UInt64.size)
    (htime : j < g.total.toNat → g.time? j.toUInt64 ≠ none) (p : Point) (s : Stream) :
    ((g.come j).next p).run.run s
      = (some ((j + 1).toUInt64, g.answer j p s, g.come (j + 1)), s.after (g.draws j 1)) := by
  have hindex : (j + 1).toUInt64 - 1 = j.toUInt64 := by
    rw [← toUInt64_succ]
    exact UInt64.add_sub_cancel _ _
  rw [next_eq g hj, answer]
  by_cases hrow : j < g.total.toNat
  · have hdraws : g.draws j 1 = 1 := by
      unfold draws
      omega
    obtain ⟨t, ht⟩ := Option.ne_none_iff_exists'.1 (htime hrow)
    have ht' : (g.come (j + 1)).time? j.toUInt64 = some t := ht
    rw [if_pos hrow, if_pos hrow, hdraws, timeAt, ht, rowAt, hindex, ht']
    rfl
  · have hdraws : g.draws j 1 = 0 := by
      unfold draws
      omega
    rw [if_neg hrow, if_neg hrow, hdraws]
    rfl

/-- a row without a time cuts the call off before its draw -/
theorem next_lost (g : Grid) {j : Nat} (hj : j + 1 < UInt64.size) (hrow : j < g.total.toNat)
    (htime : g.time? j.toUInt64 = none) (p : Point) (s : Stream) :
    ((g.come j).next p).run.run s = (none, s) := by
  have hindex : (j + 1).toUInt64 - 1 = j.toUInt64 := by
    rw [← toUInt64_succ]
    exact UInt64.add_sub_cancel _ _
  have htime' : (g.come (j + 1)).time? j.toUInt64 = none := htime
  rw [next_eq g hj, if_pos hrow, rowAt, hindex, htime']
  rfl

/-! ## calls in a row -/

/-- the answers of some calls, each with a point of its own, and the grid after them -/
def calls (g : Grid) : List Point → OptionT Draw (List (UInt64 × Point) × Grid)
  | [] => return ([], g)
  | p :: ps => do
    let (number, row, g) ← g.next p
    let (rest, g) ← g.calls ps
    return ((number, row) :: rest, g)

/-- what the calls after `j` calls answer -/
def answers (g : Grid) : Nat → Stream → List Point → List (UInt64 × Point)
  | _, _, [] => []
  | j, s, p :: ps =>
    ((j + 1).toUInt64, g.answer j p s) :: g.answers (j + 1) (s.after (g.draws j 1)) ps

/-- the rows among `n` calls after `j` calls have a time -/
def Timed (g : Grid) (j n : Nat) : Prop :=
  ∀ i, j ≤ i → i < j + n → i < g.total.toNat → g.time? i.toUInt64 ≠ none

theorem calls_cons {g g' : Grid} {p row : Point} {number : UInt64} {s s' : Stream}
    (h : (g.next p).run.run s = (some (number, row, g'), s')) (ps : List Point) :
    (g.calls (p :: ps)).run.run s
      = (((g'.calls ps).run.run s').1.map fun rest => ((number, row) :: rest.1, rest.2),
          ((g'.calls ps).run.run s').2) := by
  rw [calls, OptionT.run_bind]
  simp only [Option.elimM, StateT.run_bind, h]
  show StateT.run (OptionT.run (g'.calls ps >>= fun rest =>
    pure ((number, row) :: rest.1, rest.2))) s' = _
  rw [OptionT.run_bind]
  simp only [Option.elimM, StateT.run_bind]
  generalize (g'.calls ps).run.run s' = out
  obtain ⟨answer, s''⟩ := out
  cases answer <;> rfl

theorem calls_of_lost {g : Grid} {p : Point} {s s' : Stream}
    (h : (g.next p).run.run s = (none, s')) (ps : List Point) :
    (g.calls (p :: ps)).run.run s = (none, s') := by
  rw [calls, OptionT.run_bind]
  simp only [Option.elimM, StateT.run_bind, h]
  rfl

theorem calls_run (g : Grid) (ps : List Point) (j : Nat) (s : Stream)
    (hlt : j + ps.length < UInt64.size) (htimed : g.Timed j ps.length) :
    ((g.come j).calls ps).run.run s
      = (some (g.answers j s ps, g.come (j + ps.length)), s.after (g.draws j ps.length)) := by
  induction ps generalizing j s with
  | nil =>
    show (some ([], g.come j), s) = _
    rw [List.length_nil, draws_zero]
    rfl
  | cons p ps ih =>
    rw [List.length_cons] at hlt htimed ⊢
    have hrest := ih (j + 1) (s.after (g.draws j 1)) (by omega)
      (fun i hle hlt' => htimed i (by omega) (by omega))
    rw [Stream.after_after, ← draws_succ, Nat.add_right_comm] at hrest
    have hnext := next_run g (by omega) (htimed j (Nat.le_refl j) (by omega)) p s
    rw [calls_cons hnext, hrest]
    rfl

/-- one row without a time cuts the whole run off -/
theorem calls_lost (g : Grid) (ps : List Point) (j : Nat) (s : Stream)
    (hlt : j + ps.length < UInt64.size) (htimed : ¬ g.Timed j ps.length) :
    (((g.come j).calls ps).run.run s).1 = none := by
  induction ps generalizing j s with
  | nil => exact absurd (fun i hle hlt' => absurd hle (Nat.not_le_of_lt hlt')) htimed
  | cons p ps ih =>
    rw [List.length_cons] at hlt htimed
    by_cases htime : j < g.total.toNat → g.time? j.toUInt64 ≠ none
    · rw [calls_cons (next_run g (by omega) htime p s)]
      have hrest := ih (j + 1) (s.after (g.draws j 1)) (by omega) (fun h => htimed ?_)
      · rw [hrest]
        rfl
      · intro i hle hlt' htotal
        rcases Nat.eq_or_lt_of_le hle with rfl | hlater
        · exact htime htotal
        · exact h i hlater (by omega) htotal
    · obtain ⟨hrow, hnone⟩ := Classical.not_imp.1 htime
      rw [calls_of_lost (next_lost g (by omega) hrow (Classical.not_not.1 hnone) p s)]

theorem length_answers (g : Grid) (j : Nat) (s : Stream) (ps : List Point) :
    (g.answers j s ps).length = ps.length := by
  induction ps generalizing j s with
  | nil => rfl
  | cons p ps ih => rw [answers, List.length_cons, List.length_cons, ih]

/-- the answer of each call, by its place among the calls -/
theorem getElem?_answers (g : Grid) {ps : List Point} {i : Nat} {p : Point} (j : Nat) (s : Stream)
    (hp : ps[i]? = some p) :
    (g.answers j s ps)[i]?
      = some ((j + i + 1).toUInt64, g.answer (j + i) p (s.after (g.draws j i))) := by
  induction ps generalizing i j s with
  | nil => exact nomatch hp
  | cons q ps ih =>
    cases i with
    | zero =>
      obtain rfl := Option.some.inj hp
      rw [draws_zero]
      rfl
    | succ i =>
      have hrest := ih (j + 1) (s.after (g.draws j 1)) hp
      rw [Stream.after_after, ← draws_succ, Nat.add_right_comm j 1 i] at hrest
      exact hrest

/-- what the rows among the answers show, where that follows from the number and the point -/
theorem map_take_answers {α : Type} {g : Grid} (shown : Point → α) (value : Nat → Point → α)
    (h : ∀ i < g.total.toNat, ∀ x p, shown (g.fill i.toUInt64 (g.timeAt i) x p) = value i p)
    (ps : List Point) (s : Stream) :
    ((g.answers 0 s ps).take g.total.toNat).map (fun r => shown r.2)
      = List.zipWith value (List.range (min ps.length g.total.toNat)) ps := by
  apply List.ext_getElem?
  intro i
  rw [List.getElem?_map, List.getElem?_take, List.getElem?_zipWith]
  by_cases hi : i < min ps.length g.total.toNat
  · have hp := List.getElem?_eq_getElem (l := ps) (i := i) (by omega)
    rw [if_pos (by omega), getElem?_answers g 0 s hp, hp, List.getElem?_range hi, Nat.zero_add,
      answer, if_pos (by omega)]
    exact congrArg some (h i (by omega) _ _)
  · rw [List.getElem?_eq_none (l := List.range _) (by rw [List.length_range]; omega)]
    split
    · rw [List.getElem?_eq_none (by rw [length_answers]; omega)]
      rfl
    · rfl

end Telemetry.Grid
