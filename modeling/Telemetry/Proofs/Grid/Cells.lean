import Mathlib.Data.List.Nodup
import Mathlib.Data.List.Perm.Subperm
import Mathlib.Data.List.ProdSigma
import Mathlib.Data.Nat.ModEq
import Telemetry.Proofs.Decimal.Digits
import Telemetry.Proofs.Grid.Times

/-!
# Cells of a grid

The two tags of a row are a cell, and the rows go through the cells in turn.  From whichever row on,
as many rows as there are cells show each cell once.

* `cell a b`, `cells axis`  the tags with two values, and all pairs of values;
* `cellAt axis i`           the cell of row number `i`;
* `cellAt_eq_iff`           two rows have one cell exactly where their numbers leave one remainder
                            by the number of cells;
* `nodup_stretch`, `perm_stretch`  the cells of consecutive rows: no two alike, and all of them;
* `rows_cover_cells`        any number of calls of a grid that was just built;
* `pastHalf`                a grid whose last row has a time, but a number that is no word with a sign.
-/

namespace Telemetry.Grid

open Telemetry.Random

/-! ## cells -/

/-- the tags with the values number `a` and `b` -/
def cell (a b : Nat) : List Tag := [⟨"tag_a", valueA a.toUInt64⟩, ⟨"tag_b", valueB b.toUInt64⟩]

/-- all pairs of values -/
def cells (axis : Nat) : List (List Tag) :=
  (List.range axis ×ˢ List.range axis).map fun c => cell c.1 c.2

/-- the cell of row number `i` -/
def cellAt (axis i : Nat) : List Tag := cell (i % axis) (i / axis % axis)

/-- a numbered text determines its number -/
theorem numbered_inj {label : String} {i j : UInt64}
    (h : label ++ String.ofList (Decimal.digits i.toNat)
      = label ++ String.ofList (Decimal.digits j.toNat)) : i = j := by
  have hdigits := String.ofList_injective ((String.append_right_inj label).1 h)
  exact UInt64.toNat_inj.1 (Decimal.digits_inj hdigits)

theorem toUInt64_inj {m n : Nat} (hm : m < UInt64.size) (hn : n < UInt64.size)
    (h : m.toUInt64 = n.toUInt64) : m = n := by
  rw [← Word.toNat_toUInt64_of_lt hm, h, Word.toNat_toUInt64_of_lt hn]

section
variable {axis : Nat}

theorem cell_inj (haxis : axis < UInt64.size) {a b c d : Nat} (ha : a < axis) (hb : b < axis)
    (hc : c < axis) (hd : d < axis) (h : cell a b = cell c d) : a = c ∧ b = d := by
  obtain ⟨hfirst, hrest⟩ := List.cons.inj h
  obtain ⟨hsecond, -⟩ := List.cons.inj hrest
  exact ⟨toUInt64_inj (by omega) (by omega) (numbered_inj (Tag.mk.inj hfirst).2),
    toUInt64_inj (by omega) (by omega) (numbered_inj (Tag.mk.inj hsecond).2)⟩

theorem length_cells (axis : Nat) : (cells axis).length = axis * axis := by
  rw [cells, List.length_map, List.length_product, List.length_range]

theorem nodup_cells (haxis : axis < UInt64.size) : (cells axis).Nodup := by
  refine List.Nodup.map_on ?_ (List.nodup_range.product List.nodup_range)
  rintro ⟨a, b⟩ hab ⟨c, d⟩ hcd h
  obtain ⟨ha, hb⟩ := List.pair_mem_product.1 hab
  obtain ⟨hc, hd⟩ := List.pair_mem_product.1 hcd
  rw [List.mem_range] at ha hb hc hd
  obtain ⟨rfl, rfl⟩ := cell_inj haxis ha hb hc hd h
  rfl

theorem cellAt_mem_cells (hpos : 0 < axis) (i : Nat) : cellAt axis i ∈ cells axis := by
  refine List.mem_map.2 ⟨(i % axis, i / axis % axis), List.pair_mem_product.2 ⟨?_, ?_⟩, rfl⟩
  · exact List.mem_range.2 (Nat.mod_lt _ hpos)
  · exact List.mem_range.2 (Nat.mod_lt _ hpos)

/-- two rows have one cell exactly where their numbers leave one remainder by the number of cells -/
theorem cellAt_eq_iff (hpos : 0 < axis) (haxis : axis < UInt64.size) {i j : Nat} :
    cellAt axis i = cellAt axis j ↔ i % (axis * axis) = j % (axis * axis) := by
  constructor
  · intro h
    obtain ⟨hlow, hhigh⟩ := cell_inj haxis (Nat.mod_lt _ hpos) (Nat.mod_lt _ hpos)
      (Nat.mod_lt _ hpos) (Nat.mod_lt _ hpos) h
    rw [Nat.mod_mul, Nat.mod_mul, hlow, hhigh]
  · intro h
    -- the two digits of a remainder are those of the number
    have hlow : i % axis = j % axis := by
      rw [← Nat.mod_mul_right_mod i axis axis, h, Nat.mod_mul_right_mod]
    have hhigh : i / axis % axis = j / axis % axis := by
      rw [← Nat.mod_mul_right_div_self, h, Nat.mod_mul_right_div_self]
    rw [cellAt, hlow, hhigh]
    rfl

theorem cellAt_add (hpos : 0 < axis) (haxis : axis < UInt64.size) (j : Nat) :
    cellAt axis (j + axis * axis) = cellAt axis j :=
  (cellAt_eq_iff hpos haxis).2 (Nat.add_mod_right j _)

/-- of no more consecutive numbers than there are remainders, no two leave one -/
theorem eq_of_mod_eq {i n m x y : Nat} (hn : n ≤ m) (hx : x ∈ List.range' i n)
    (hy : y ∈ List.range' i n) (h : x % m = y % m) : x = y := by
  rw [List.mem_range'_1] at hx hy
  have hmod : x ≡ y [MOD m] := h
  exact hmod.eq_of_abs_lt (abs_lt.2 ⟨by omega, by omega⟩)

theorem nodup_stretch (hpos : 0 < axis) (haxis : axis < UInt64.size) (i : Nat) {n : Nat}
    (hn : n ≤ axis * axis) : ((List.range' i n).map (cellAt axis)).Nodup := by
  refine List.Nodup.map_on ?_ List.nodup_range'
  intro x hx y hy h
  exact eq_of_mod_eq hn hx hy ((cellAt_eq_iff hpos haxis).1 h)

theorem perm_stretch (hpos : 0 < axis) (haxis : axis < UInt64.size) (i : Nat) :
    ((List.range' i (axis * axis)).map (cellAt axis)).Perm (cells axis) := by
  -- no cell comes twice and there are as many as in the whole grid, so none is missing
  have hsubset : (List.range' i (axis * axis)).map (cellAt axis) ⊆ cells axis := by
    intro c hc
    obtain ⟨j, -, rfl⟩ := List.mem_map.1 hc
    exact cellAt_mem_cells hpos j
  have hnodup := nodup_stretch hpos haxis i (Nat.le_refl (axis * axis))
  have hlength : (cells axis).length
      = ((List.range' i (axis * axis)).map (cellAt axis)).length := by
    rw [length_cells, List.length_map, List.length_range']
  exact (hnodup.subperm hsubset).perm_of_length_le (Nat.le_of_eq hlength)

end

/-- some consecutive entries of a list of values -/
theorem take_drop_map_range {α : Type} (f : Nat → α) {i n m : Nat} (h : i + n ≤ m) :
    (((List.range m).map f).drop i).take n = (List.range' i n).map f := by
  apply List.ext_getElem?
  intro k
  rw [List.getElem?_take, List.getElem?_drop, List.getElem?_map, List.getElem?_map]
  by_cases hk : k < n
  · rw [if_pos hk, List.getElem?_range (by omega), List.getElem?_range' hk, Nat.one_mul]
  · rw [if_neg hk, List.getElem?_eq_none (by rw [List.length_range']; omega)]
    rfl

/-! ## rows -/

section
variable {plan : Plan} {g : Grid}

theorem tags_fill (g : Grid) {i : Nat} (hi : i < UInt64.size) (t : Int64) (x : Float) (p : Point) :
    (g.fill i.toUInt64 t x p).tags = p.tags ++ cellAt g.axis.toNat i := by
  have hword : i.toUInt64.toNat = i := Word.toNat_toUInt64_of_lt hi
  have hlow : (i % g.axis.toNat).toUInt64 = i.toUInt64 % g.axis := by
    apply UInt64.toNat_inj.1
    rw [UInt64.toNat_mod, hword, Word.toNat_toUInt64_of_lt]
    exact Nat.lt_of_le_of_lt (Nat.mod_le _ _) hi
  have hhigh : (i / g.axis.toNat % g.axis.toNat).toUInt64 = i.toUInt64 / g.axis % g.axis := by
    apply UInt64.toNat_inj.1
    rw [UInt64.toNat_mod, UInt64.toNat_div, hword, Word.toNat_toUInt64_of_lt]
    exact Nat.lt_of_le_of_lt (Nat.le_trans (Nat.mod_le _ _) (Nat.div_le_self _ _)) hi
  rw [cellAt, cell, hlow, hhigh]
  show p.tags ++ [_] ++ [_] = _
  rw [List.append_assoc]
  rfl

/-- the calls are numbered one after the other -/
theorem numbers_answers (g : Grid) (ps : List Point) (j : Nat) (s : Stream)
    (hlt : j + ps.length < UInt64.size) :
    (g.answers j s ps).map (·.1.toNat) = List.range' (j + 1) ps.length := by
  induction ps generalizing j s with
  | nil => rfl
  | cons p ps ih =>
    rw [List.length_cons] at hlt
    have hword : (j + 1).toUInt64.toNat = j + 1 :=
      Word.toNat_toUInt64_of_lt (show j + 1 < UInt64.size by omega)
    rw [answers, List.map_cons, hword, ih (j + 1) _ (by omega)]
    rfl

/-- past the last row the points stay -/
theorem drop_answers (g : Grid) (ps : List Point) (s : Stream) :
    ((g.answers 0 s ps).map (·.2)).drop g.total.toNat = ps.drop g.total.toNat := by
  apply List.ext_getElem?
  intro i
  rw [List.getElem?_drop, List.getElem?_drop, List.getElem?_map]
  cases hp : ps[g.total.toNat + i]? with
  | none =>
    rw [List.getElem?_eq_none_iff] at hp
    rw [List.getElem?_eq_none (by rw [length_answers]; exact hp)]
    rfl
  | some p =>
    rw [getElem?_answers g 0 s hp, Option.map_some, answer, if_neg (by omega)]

/-- up to the last row each row adds its cell to its point -/
theorem tags_answers (g : Grid) (ps : List Point) (s : Stream) :
    ((g.answers 0 s ps).take g.total.toNat).map (·.2.tags)
      = List.zipWith (fun c p => p.tags ++ c)
          ((List.range (min ps.length g.total.toNat)).map (cellAt g.axis.toNat)) ps := by
  have htotal := g.total.toNat_lt_size
  rw [List.zipWith_map_left]
  exact map_take_answers (·.tags) (fun i p => p.tags ++ cellAt g.axis.toNat i)
    (fun i hi x p => tags_fill g (by omega) (g.timeAt i) x p) ps s

theorem toNat_seenPoints (g : Grid) {n : Nat} (hn : n < UInt64.size) :
    (g.come n).seenPoints.toNat = min n g.total.toNat := by
  have hword : n.toUInt64.toNat = n := Word.toNat_toUInt64_of_lt hn
  show (min n.toUInt64 g.total).toNat = _
  rw [Word.toNat_min, hword]

/-- where the window ends before the last time, the rows have times, as far as their numbers are words
with a sign -/
theorem Built.timed_of_end (hb : Built plan g)
    (hend : plan.window.start.toInt + plan.points.toNat ≤ 9223372036854775807) {n : Nat}
    (hrows : min n plan.points.toNat ≤ 9223372036854775808) : g.Timed 0 n := by
  intro i _ hn hi
  rw [hb.total_eq] at hi
  refine (hb.toInt_timeAt hi (by omega) ?_).1
  have hstop := plan.window.stop.toInt_lt
  by_cases hfit : plan.points.toNat ≤ plan.window.stop.toInt - plan.window.start.toInt
  · have hinstant := hb.instant_lt_stop hfit hi
    omega
  · rw [instant, hb.step_of_lt (Int.not_le.1 hfit)]
    omega

/-- **The cells come up in turn.**  Let the start and the number of rows stay below the last time.
Then any calls of a new grid are numbered from one on, as long as no row number passes the largest
word with a sign.  As long as there are rows, each call adds a cell to its point and takes one draw;
then the points and the stream stay.  No two of at most as many consecutive rows as there are cells
have one cell, as many rows as there are cells have all of them, and after that many rows a cell
comes again. -/
theorem rows_cover_cells (h : build plan = .ok g)
    (hend : plan.window.start.toInt + plan.points.toNat ≤ 9223372036854775807) (ps : List Point)
    (s : Stream) (hlt : ps.length < UInt64.size)
    (hrows : min ps.length plan.points.toNat ≤ 9223372036854775808) :
    ∃ rows g' shown, (g.calls ps).run.run s
        = (some (rows, g'), s.after (min ps.length plan.points.toNat)) ∧
      rows.map (·.1.toNat) = List.range' 1 ps.length ∧
      (rows.map (·.2)).drop plan.points.toNat = ps.drop plan.points.toNat ∧
      (rows.take plan.points.toNat).map (·.2.tags)
        = List.zipWith (fun c p => p.tags ++ c) shown ps ∧
      shown.length = min ps.length plan.points.toNat ∧
      g'.seenPoints.toNat = min ps.length plan.points.toNat ∧
      g'.seenValues.toNat = min ps.length plan.points.toNat ∧
      (cells plan.axis.toNat).Nodup ∧
      (cells plan.axis.toNat).length = plan.axis.toNat * plan.axis.toNat ∧
      (∀ i, i + plan.axis.toNat * plan.axis.toNat ≤ shown.length →
        ((shown.drop i).take (plan.axis.toNat * plan.axis.toNat)).Perm
          (cells plan.axis.toNat)) ∧
      (∀ i n, n ≤ plan.axis.toNat * plan.axis.toNat → i + n ≤ shown.length →
        ((shown.drop i).take n).Nodup) ∧
      ∀ j, j + plan.axis.toNat * plan.axis.toNat < shown.length →
        shown[j + plan.axis.toNat * plan.axis.toNat]? = shown[j]? := by
  have hb := built_of_build h
  have hpos := hb.axis_pos
  have haxis := plan.axis.toNat_lt_size
  have hrun := calls_run g ps 0 s (by omega) (hb.timed_of_end hend hrows)
  rw [come_zero hb, Nat.zero_add] at hrun
  have hdraws : g.draws 0 ps.length = min ps.length plan.points.toNat := by
    rw [draws, hb.total_eq]
    omega
  rw [hdraws] at hrun
  have htags := tags_answers g ps s
  have hseen := toNat_seenPoints g hlt
  have hdrop := drop_answers g ps s
  rw [hb.total_eq] at htags hseen hdrop
  rw [hb.axis_eq] at htags
  have hlength : ((List.range (min ps.length plan.points.toNat)).map
      (cellAt plan.axis.toNat)).length = min ps.length plan.points.toNat := by
    rw [List.length_map, List.length_range]
  refine ⟨_, _, _, hrun, numbers_answers g ps 0 s (by omega), hdrop, htags, hlength, hseen, hseen,
    nodup_cells haxis, length_cells _, ?_, ?_, ?_⟩
  · intro i hi
    rw [hlength] at hi
    rw [take_drop_map_range _ hi]
    exact perm_stretch hpos haxis i
  · intro i n hn hi
    rw [hlength] at hi
    rw [take_drop_map_range _ hi]
    exact nodup_stretch hpos haxis i hn
  · intro j hj
    rw [hlength] at hj
    rw [List.getElem?_map, List.getElem?_map, List.getElem?_range hj,
      List.getElem?_range (by omega), Option.map_some, Option.map_some, cellAt_add hpos haxis]

/-- twenty calls of a grid of sixteen rows, which are all its cells -/
theorem rows_cover_cells_four :
    ∃ g, build { axis := 4, points := 16, window := ⟨0, 1000⟩ } = .ok g ∧
      (0 : Int64).toInt + (16 : UInt64).toNat ≤ 9223372036854775807 ∧
      (List.replicate 20 ({} : Point)).length < UInt64.size ∧
      min (List.replicate 20 ({} : Point)).length (16 : UInt64).toNat ≤ 9223372036854775808 ∧
      ∃ rows g' shown, (g.calls (List.replicate 20 {})).run.run ⟨1⟩
          = (some (rows, g'), Stream.after ⟨1⟩ 16) ∧
        (rows.take 16).map (·.2.tags)
          = List.zipWith (fun c (p : Point) => p.tags ++ c) shown (List.replicate 20 {}) ∧
        shown.Perm (cells 4) ∧ g'.seenValues.toNat = 16 := by
  have hbuild : ∃ g, build { axis := 4, points := 16, window := ⟨0, 1000⟩ } = .ok g := ⟨_, rfl⟩
  obtain ⟨g, hg⟩ := hbuild
  have hend : (0 : Int64).toInt + (16 : UInt64).toNat ≤ 9223372036854775807 := by decide
  have hlt : (List.replicate 20 ({} : Point)).length < UInt64.size := by decide
  have hrows : min (List.replicate 20 ({} : Point)).length (16 : UInt64).toNat
      ≤ 9223372036854775808 := by decide
  obtain ⟨rows, g', shown, hrun, -, -, htags, hlength, -, hvalues, -, -, hperm, -, -⟩ :=
    rows_cover_cells hg hend (List.replicate 20 {}) ⟨1⟩ hlt hrows
  have hshown : shown.length = 16 := hlength
  have hall : ((shown.drop 0).take 16).Perm (cells 4) := hperm 0 (Nat.le_of_eq hshown.symm)
  rw [List.drop_zero, List.take_of_length_le (Nat.le_of_eq hshown)] at hall
  exact ⟨g, hg, hend, hlt, hrows, rows, g', shown, hrun, htags, hall, hvalues⟩

end

/-! ## row numbers without a sign -/

/-- one more row than there are words with a sign that are not negative, from the least time on -/
def pastHalf : Plan :=
  { axis := 1, points := 9223372036854775809, window := ⟨-9223372036854775808, -1⟩ }

/-- the start and the number of rows stay below the last time; but the number of the last row wraps,
and its call is cut off -/
theorem not_numbered_pastHalf :
    ∃ g, build pastHalf = .ok g ∧
      pastHalf.window.start.toInt + pastHalf.points.toNat ≤ 9223372036854775807 ∧
      ((g.calls (List.replicate 9223372036854775809 {})).run.run ⟨1⟩).1 = none := by
  have hbuild : ∃ g, build pastHalf = .ok g := ⟨_, rfl⟩
  obtain ⟨g, hg⟩ := hbuild
  have hb := built_of_build hg
  have hlength : (List.replicate 9223372036854775809 ({} : Point)).length = 9223372036854775809 :=
    List.length_replicate
  have htotal : g.total.toNat = 9223372036854775809 := congrArg UInt64.toNat hb.total_eq
  have htime : g.time? (9223372036854775808 : Nat).toUInt64 = none := by
    show g.time? 9223372036854775808 = none
    rw [hb.time?_half (by decide), Word.signed?_eq_none_iff]
    exact .inl (by decide)
  have hlost := calls_lost g (List.replicate 9223372036854775809 {}) 0 ⟨1⟩
    (by rw [hlength]; decide) fun htimed =>
      htimed 9223372036854775808 (by decide) (by rw [hlength]; decide) (by rw [htotal]; decide) htime
  rw [come_zero hb] at hlost
  exact ⟨g, hg, by decide, hlost⟩

end Telemetry.Grid
