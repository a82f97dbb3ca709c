import Telemetry.Proofs.Entity.Fresh
import Telemetry.Proofs.Generator.Rows

/-!
# The uptime of a key-value store

A store counts the nanoseconds that it has been up.  Ticks move the count, rows do not, and a row
reports the whole seconds in it.

* `clock?`                  the count, for the generators that have one;
* `clock?_tick`, `clock?_rows`  what a tick and what rows do to it;
* `clocks_tickTimes`        several ticks of all generators of an entity: no fraction is lost;
* `Unticked`                a store as it was made, but for some rows, and what its count is then;
* `fields_of_clock`         the uptime in a row.
-/

namespace Telemetry.Generator

open Telemetry.Random

/-- the nanoseconds that a store has been up -/
def clock? : Generator → Option UInt64
  | .redis g => some g.uptimeNanos.value
  | _ => none

theorem clock?_tick (g : Generator) (interval : Duration) :
    (g.tick interval).clock? = g.clock?.map (· + interval.toNanos.toUInt64) := by
  cases g with
  | redis g =>
    show some (g.tick interval).uptimeNanos.value = _
    unfold Redis.tick
    rfl
  | _ => rfl

theorem clock?_advance (g : Generator) (s : Stream) : (g.advance.run s).1.2.clock? = g.clock? := by
  cases g with
  | nginx g => exact show none = none from rfl
  | _ => rfl

theorem clock?_rows (g : Generator) (rows : List (Point × Stream)) :
    (g.after (rows.map fun r => .row r.1 r.2)).clock? = g.clock? := by
  induction rows generalizing g with
  | nil => rfl
  | cons r rows ih =>
    refine (ih _).trans ?_
    rw [happen_row]
    exact clock?_advance g r.2

theorem map_add_zero : Option.map (· + Nat.toUInt64 0) = (id : Option UInt64 → Option UInt64) := by
  funext count
  show count.map (· + 0) = count
  simp

theorem map_add_add (m n : Nat) :
    Option.map (· + n.toUInt64) ∘ Option.map (· + m.toUInt64)
      = Option.map (· + (m + n).toUInt64) := by
  rw [Option.map_comp_map]
  congr 1
  funext count
  show count + m.toUInt64 + n.toUInt64 = count + (m + n).toUInt64
  rw [UInt64.add_assoc]
  exact congrArg (count + ·) (UInt64.ofNat_add m n).symm

/-- `n` ticks count `n` intervals, to the nanosecond -/
theorem clocks_tickTimes (interval : Duration) (n : Nat) (gs : List Generator) :
    (Entity.tickTimes interval n gs).map clock?
      = (gs.map clock?).map (Option.map (· + (n * interval.toNanos).toUInt64)) := by
  -- on the ticks; the first of them is one interval in every count
  induction n generalizing gs with
  | zero =>
    rw [Entity.tickTimes_zero, Nat.zero_mul, map_add_zero, List.map_id]
  | succ n ih =>
    have htick : (gs.map (Generator.tick interval)).map clock?
        = (gs.map clock?).map (Option.map (· + interval.toNanos.toUInt64)) := by
      rw [List.map_map, List.map_map]
      exact List.map_congr_left fun g _ => clock?_tick g interval
    rw [Entity.tickTimes_succ, ih, htick, List.map_map, map_add_add, Nat.succ_mul, Nat.add_comm]

/-- a store that was made with a count and has made some rows since, but has not ticked -/
def Unticked (count : UInt64) (g : Generator) : Prop :=
  ∃ (start : Int64) (o : Overrides) (a : Attributes) (rows : List (Point × Stream)),
    ((new .redis start o).run a).1.clock? = some count ∧
    g = ((new .redis start o).run a).1.after (rows.map fun r => .row r.1 r.2)

variable {count : UInt64} {g : Generator}

theorem Unticked.clock?_eq (h : Unticked count g) : g.clock? = some count := by
  obtain ⟨start, o, a, rows, hcount, rfl⟩ := h
  rw [clock?_rows, hcount]

/-- a new store has been up for less than a week -/
theorem Unticked.toNat_lt (h : Unticked count g) : count.toNat < 604800000000000 := by
  obtain ⟨start, o, a, -, hcount, -⟩ := h
  obtain ⟨hkind, hexact⟩ := always_new .redis start o a
  generalize ((new .redis start o).run a).1 = made at hcount hkind hexact
  cases made with
  | redis r =>
    obtain ⟨uptime, hlt, heq⟩ := hexact
    obtain rfl := Option.some.inj hcount
    omega
  | _ => exact nomatch hcount

theorem fields_of_clock (h : g.clock? = some count) (s : Stream) :
    ∃ rest, g.fields (g.advance.run s).1.1
      = ⟨"uptime_in_seconds", .unsigned (count / Redis.nanosPerSecond)⟩ :: rest := by
  cases g with
  | redis r =>
    obtain rfl := Option.some.inj h
    exact ⟨_, rfl⟩
  | _ => exact nomatch h

end Telemetry.Generator
