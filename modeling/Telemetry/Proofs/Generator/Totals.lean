import Mathlib.Algebra.Order.BigOperators.Group.List
import Telemetry.Proofs.Generator.Growth
import Telemetry.Proofs.Generator.Rows

/-!
# Totals

As long as a generator has not made too many rows, no addition to a total overflows: the total is
the sum of what the rows have added.

* `totals`, `totals_shown`  the totals that a generator holds, and where its rows show them;
* `words`                   what the rows among some events have drawn;
* `Summed`                  the invariant: every total is the word of the sum;
* `totals_add_up`           the totals in every row.
-/

namespace Telemetry

open Telemetry.Random

namespace Generator

/-! ## the totals of a generator -/

/-- the totals that a generator holds -/
def totals : Generator → List UInt64
  | .diskIo g => g.counters.toList.map Counter.value
  | .kernel g => g.counters.toList.map Counter.value
  | .net g => g.counters.toList.map Counter.value
  | .nginx g => [g.accepts.value, g.handled.value, g.requests.value]
  | .redis g => g.stats.toList.map Counter.value
  | .cpu | .disk _ | .mem _ | .cityUtility _ => []

theorem values_addAll {n : Nat} (counters : Vector Counter n) (amounts : Vector UInt64 n) :
    (addAll counters amounts).toList.map Counter.value
      = List.zipWith (· + ·) (counters.toList.map Counter.value) amounts.toList := by
  rw [addAll, Vector.toList_zipWith, List.map_zipWith, List.zipWith_map_left]
  rfl

theorem totals_tick (g : Generator) (interval : Duration) :
    (g.tick interval).totals = g.totals := by
  cases g with
  | redis g =>
    show (g.tick interval).stats.toList.map Counter.value = _
    unfold Redis.tick
    rfl
  | cpu | disk | diskIo | kernel | mem | net | nginx | cityUtility => rfl

theorem totals_advance (g : Generator) (s : Stream) :
    (g.advance.run s).1.2.totals
      = List.zipWith (· + ·) g.totals (g.kind.added (draw64.run s).1) := by
  cases g with
  | diskIo g => exact values_addAll g.counters _
  | kernel g => exact values_addAll g.counters _
  | net g => exact values_addAll g.counters _
  | redis g => exact values_addAll g.stats _
  | nginx | cpu | disk | mem | cityUtility => rfl

/-- the totals of a row are those that the generator holds after it -/
theorem totals_shown (g : Generator) (s : Stream) :
    (g.advance.run s).1.2.totals.map FieldValue.unsigned
      <+: (g.advance.run s).1.1.drop g.kind.before := by
  cases g with
  | diskIo g => exact ⟨[], (List.append_nil _).trans List.map_map⟩
  | kernel g => exact ⟨[], (List.append_nil _).trans List.map_map⟩
  | net g => exact ⟨[], (List.append_nil _).trans List.map_map⟩
  | redis g =>
    obtain ⟨rates, input, output, sys, user, hvalues⟩ := g.values_advance s
    show List.map _ (List.map _ (addAll g.stats _).toList) <+: (g.advance.run s).1.1.drop 1
    rw [hvalues, List.map_map]
    exact List.prefix_append _ _
  | nginx => exact ⟨_, rfl⟩
  | cpu | disk | mem | cityUtility => exact List.nil_prefix

/-! ## what rows have drawn -/

/-- the first word that a row draws -/
def Event.word? : Event → Option UInt64
  | .tick _ => none
  | .row _ s => some (draw64.run s).1

/-- the first words of the rows among some events -/
def words (events : List Event) : List UInt64 := events.filterMap Event.word?

theorem words_append (events more : List Event) :
    words (events ++ more) = words events ++ words more :=
  List.filterMap_append

/-- every total of a generator is the word of what the rows have added -/
def Summed (drawn : List UInt64) (g : Generator) : Prop :=
  g.totals = g.kind.growth.map fun t => ((drawn.map t.2).sum).toUInt64

theorem summed_new (kind : Kind) (start : Int64) (o : Overrides) (a : Attributes) :
    Summed [] ((new kind start o).run a).1 := by
  cases kind <;> rfl

theorem Summed.tick {drawn : List UInt64} {g : Generator} (h : Summed drawn g)
    (interval : Duration) : Summed drawn (g.tick interval) := by
  rw [Summed, totals_tick, kind_of_label (label_tick interval g)]
  exact h

theorem Summed.advance {drawn : List UInt64} {g : Generator} (h : Summed drawn g) (s : Stream) :
    Summed (drawn ++ [(draw64.run s).1]) (g.advance.run s).1.2 := by
  rw [Summed, totals_advance, kind_advance, Kind.added_eq, h, List.zipWith_map, List.zipWith_self]
  apply List.map_congr_left
  intro t _
  rw [List.map_append, List.sum_append]
  exact (UInt64.ofNat_add _ _).symm

theorem summed_after {drawn : List UInt64} {g : Generator} (h : Summed drawn g)
    (events : List Event) : Summed (drawn ++ words events) (g.after events) := by
  -- on the events, whatever the rows before them have drawn
  induction events generalizing drawn g with
  | nil => rwa [words, List.filterMap_nil, List.append_nil]
  | cons e events ih =>
    cases e with
    | tick interval => exact ih (h.tick interval)
    | row p s =>
      have hnext := ih (h.advance s)
      rw [List.append_assoc, ← happen_row g p s] at hnext
      exact hnext

/-! ## every row -/

theorem getElem?_of_prefix {α : Type} {l m : List α} (h : l <+: m) {i : Nat} {x : α}
    (hi : l[i]? = some x) : m[i]? = some x := by
  obtain ⟨hlt, rfl⟩ := List.getElem?_eq_some_iff.1 hi
  exact List.prefix_iff_getElem?.1 h i hlt

theorem total_lt {kind : Kind} {drawn : List UInt64} (hrows : drawn.length < 70368744177664)
    {t : String × (UInt64 → Nat)} (ht : t ∈ kind.growth) :
    (drawn.map t.2).sum < 18446744073709551616 := by
  have hsum : (drawn.map t.2).sum ≤ (drawn.map t.2).length • 262144 := by
    apply List.sum_le_card_nsmul
    intro n hn
    obtain ⟨word, _, rfl⟩ := List.mem_map.1 hn
    exact kind.growth_le word t ht
  rw [List.length_map, Nat.nsmul_eq_mul] at hsum
  omega

theorem Summed.number? {drawn : List UInt64} {g : Generator} (h : Summed drawn g) (s : Stream)
    (hrows : drawn.length + 1 < 70368744177664) {key : String}
    (hkey : key ∈ g.kind.growth.map Prod.fst) :
    (g.row s).number? key = some (g.kind.total (drawn ++ [(draw64.run s).1]) key) := by
  obtain ⟨t, ht, rfl⟩ := List.mem_map.1 hkey
  obtain ⟨i, hi⟩ := List.getElem?_of_mem ht
  -- key number `i` of the table stands in one column with total number `i` of the generator
  have hname : g.kind.fieldKeys[g.kind.before + i]? = some t.1 := by
    rw [← List.getElem?_drop]
    apply getElem?_of_prefix g.kind.keys_growth
    rw [List.getElem?_map, hi]
    rfl
  have hvalue : (g.advance.run s).1.1[g.kind.before + i]?
      = some (.unsigned ((drawn ++ [(draw64.run s).1]).map t.2).sum.toUInt64) := by
    rw [← List.getElem?_drop]
    apply getElem?_of_prefix (g.totals_shown s)
    rw [h.advance s, kind_advance, List.getElem?_map, List.getElem?_map, hi]
    rfl
  have hlength : (drawn ++ [(draw64.run s).1]).length < 70368744177664 := by
    rwa [List.length_append]
  have hlt := total_lt hlength ht
  rw [number?_row g s hname hvalue, Kind.total, Kind.gain_eq t ht]
  exact congrArg some (UInt64.toNat_ofNat_of_lt' hlt)

/-- a row whose totals are the sums of what so many rows have added, the row itself included -/
structure Totalled (kind : Kind) (drawn : List UInt64) (row : Point) : Prop where
  number?_eq : ∀ key ∈ kind.growth.map Prod.fst, row.number? key = some (kind.total drawn key)
  related : kind.Related drawn.length (kind.total drawn)

theorem totalled_row (kind : Kind) (start : Int64) (o : Overrides) (a : Attributes)
    {events : List Event} {p : Point} {s : Stream}
    (hrows : (words (events ++ [.row p s])).length < 70368744177664) :
    Totalled kind (words (events ++ [.row p s]))
      ((((new kind start o).run a).1.after events).row s) := by
  have hkind : (((new kind start o).run a).1.after events).kind = kind := by
    rw [kind_of_label (label_after _ events), kind_new]
  have hsummed := summed_after (summed_new kind start o a) events
  rw [List.nil_append] at hsummed
  rw [words_append] at hrows ⊢
  refine ⟨fun key hkey => ?_, Kind.related_total _⟩
  rw [List.length_append] at hrows
  rw [← hkind] at hkey
  rw [hsummed.number? s hrows hkey, hkind]
  rfl

theorem total_le (kind : Kind) (drawn more : List UInt64) (key : String) :
    kind.total drawn key ≤ kind.total (drawn ++ more) key := by
  rw [Kind.total, Kind.total, List.map_append, List.sum_append]
  exact Nat.le_add_right _ _

/-- **The totals add up.**  A generator may tick and make rows in any order, with fewer than 2 ^ 46
rows among them.  Every total in a row is the sum of what its rows have added, without overflow; the
totals of the row stand in the relations of its kind; and no later row shows less.  What the rows
add are the numbers that the generators compute as words. -/
theorem totals_add_up (kind : Kind) (start : Int64) (o : Overrides) (a : Attributes)
    (events : List Event) (p : Point) (s : Stream)
    (hrows : (words (events ++ [.row p s])).length < 70368744177664) :
    Totalled kind (words (events ++ [.row p s]))
      ((((new kind start o).run a).1.after events).row s) ∧
    (∀ (more : List Event) (p' : Point) (s' : Stream),
      (words (events ++ [.row p s] ++ more ++ [.row p' s'])).length < 70368744177664 →
      ∀ key ∈ kind.growth.map Prod.fst, ∃ m n,
        ((((new kind start o).run a).1.after events).row s).number? key = some m ∧
        ((((new kind start o).run a).1.after (events ++ [.row p s] ++ more)).row s').number? key
          = some n ∧ m ≤ n) ∧
    (∀ word, (kind.added word).map UInt64.toNat = kind.growth.map fun t => t.2 word) ∧
    (∀ (g : Generator) (q : Point),
      ((g.emit q).run s).1.2.1.fields = q.fields ++ (g.row s).fields) := by
  have hrow := totalled_row kind start o a hrows
  refine ⟨hrow, ?_, ?_, fun g q => fields_emit g q s⟩
  · intro more p' s' hrows' key hkey
    have hlater := totalled_row kind start o a hrows'
    refine ⟨_, _, hrow.number?_eq key hkey, hlater.number?_eq key hkey, ?_⟩
    rw [List.append_assoc _ more, words_append _ (more ++ _)]
    exact total_le kind _ _ key
  · intro word
    rw [Kind.added_eq, List.map_map]
    apply List.map_congr_left
    intro t ht
    have hle := kind.growth_le word t ht
    exact UInt64.toNat_ofNat_of_lt' (Nat.lt_of_le_of_lt hle (by decide))

/-- a web server that makes a row, waits for a second and makes another row -/
theorem totals_add_up_two_rows :
    (words [.row {} ⟨1⟩, .tick (.ofSeconds 1), .row {} ⟨33554433⟩]).length < 70368744177664 ∧
    ((((new .nginx 0 {}).run ⟨0⟩).1.after [.row {} ⟨1⟩, .tick (.ofSeconds 1)]).row
      ⟨33554433⟩).number? "accepts" = some 58 := by
  have hrows : (words [.row {} ⟨1⟩, .tick (.ofSeconds 1), .row {} ⟨33554433⟩]).length
      < 70368744177664 := by decide
  have htotals :=
    totals_add_up .nginx 0 {} ⟨0⟩ [.row {} ⟨1⟩, .tick (.ofSeconds 1)] {} ⟨33554433⟩ hrows
  refine ⟨hrows, (htotals.1.number?_eq "accepts" (by decide)).trans ?_⟩
  decide

end Generator

end Telemetry
