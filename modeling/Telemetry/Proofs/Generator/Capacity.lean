import Telemetry.Proofs.Generator.Rows
import Telemetry.Proofs.Generator.Walk

/-!
# Rows within a capacity

A disk and a memory have a size for good, and what is in use is the size less what is not: the walk
of what is not in use ends at the size, so the difference of words is the difference of numbers.
The gauges of a key-value store have fixed bounds.

* `Disk.Shows`, `Mem.Shows`, `Redis.Shows`  what a row of each kind says, in natural numbers;
* `Disk.Sized`, `Mem.Sized`, `Redis.Ranged` the state behind it: walks between bounds;
* `sized_new`, `Sized.advance`, `Sized.after`  for one kind: how it starts, one row, any events;
* `rows_within_capacity`                    every row of the three kinds.
-/

namespace Telemetry.Generator

open Telemetry.Random

variable {o : Overrides}

/-- what is left of a total, as a difference of natural numbers -/
theorem toNat_left {total part : UInt64} (h : part.toNat ≤ total.toNat) :
    (total - part).toNat = total.toNat - part.toNat :=
  UInt64.toNat_sub_of_le _ _ (UInt64.le_iff_toNat_le.2 h)

/-! ## file systems -/

namespace Disk

/-- a row of a file system with so many bytes and index nodes, of which some are free -/
structure Shows (total inodes free inodesFree : Nat) (row : Point) : Prop where
  total_eq : row.number? "total" = some total
  free_eq : row.number? "free" = some free
  used_eq : row.number? "used" = some (total - free)
  inodes_eq : row.number? "inodes_total" = some inodes
  inodesFree_eq : row.number? "inodes_free" = some inodesFree
  inodesUsed_eq : row.number? "inodes_used" = some (inodes - inodesFree)
  free_le : free ≤ total
  inodesFree_le : inodesFree ≤ inodes

structure Sized (total inodes : UInt64) (g : Disk) : Prop where
  total_eq : g.total = total
  inodes_eq : g.inodesTotal = inodes
  free : g.free.Within 0 total
  inodesFree : g.inodesFree.Within 0 inodes

theorem sized_new (a : Attributes) : ∃ total inodes, ((new o).run a).1.Sized total inodes :=
  ⟨_, _, rfl, rfl, IntWalk.within_start _ _ UInt64.zero_le,
    IntWalk.within_start _ _ UInt64.zero_le⟩

variable {total inodes : UInt64} {g : Disk}

theorem Sized.advance (h : g.Sized total inodes) (s : Stream) :
    (g.advance.run s).1.2.Sized total inodes where
  total_eq := h.total_eq
  inodes_eq := h.inodes_eq
  free := h.free.advance s
  inodesFree := h.inodesFree.advance (g.free.advance.run s).2

theorem Sized.after (h : g.Sized total inodes) (events : List Event) :
    ∃ g' : Disk, (Generator.disk g).after events = .disk g' ∧ g'.Sized total inodes :=
  after_keeps .disk (Sized total inodes) (fun g _ h => ⟨g, rfl, h⟩)
    (fun _ s h => ⟨_, rfl, h.advance s⟩) h events

theorem Sized.shows (h : g.Sized total inodes) (s : Stream) :
    ∃ free inodesFree,
      Shows total.toNat inodes.toNat free inodesFree ((Generator.disk g).row s) := by
  have hfree := (h.free.answer s).2
  have hinodes := (h.inodesFree.answer (g.free.advance.run s).2).2
  have hused := toNat_left hfree
  have hinodesUsed := toNat_left hinodes
  rw [← h.total_eq, ← h.inodes_eq] at *
  refine ⟨_, _, ?_, ?_, ?_, ?_, ?_, ?_, hfree, hinodes⟩
  · exact number?_row _ s (i := 0) rfl rfl
  · exact number?_row _ s (i := 1) rfl rfl
  · rw [← hused]
    exact number?_row _ s (i := 2) rfl rfl
  · exact number?_row _ s (i := 4) rfl rfl
  · exact number?_row _ s (i := 5) rfl rfl
  · rw [← hinodesUsed]
    exact number?_row _ s (i := 6) rfl rfl

end Disk

/-! ## main memories -/

namespace Mem

/-- a row of a memory with so many bytes, of which some are available -/
structure Shows (total available : Nat) (row : Point) : Prop where
  total_eq : row.number? "total" = some total
  available_eq : row.number? "available" = some available
  used_eq : row.number? "used" = some (total - available)
  available_le : available ≤ total

structure Sized (total : UInt64) (g : Mem) : Prop where
  total_eq : g.total = total
  available : g.available.Within 0 total

theorem sized_new (a : Attributes) : ∃ total, (new.run a).1.Sized total :=
  ⟨_, rfl, IntWalk.within_start _ _ UInt64.zero_le⟩

variable {total : UInt64} {g : Mem}

theorem Sized.advance (h : g.Sized total) (s : Stream) : (g.advance.run s).1.2.Sized total where
  total_eq := h.total_eq
  available := h.available.advance s

theorem Sized.after (h : g.Sized total) (events : List Event) :
    ∃ g' : Mem, (Generator.mem g).after events = .mem g' ∧ g'.Sized total :=
  after_keeps .mem (Sized total) (fun g _ h => ⟨g, rfl, h⟩)
    (fun _ s h => ⟨_, rfl, h.advance s⟩) h events

theorem Sized.shows (h : g.Sized total) (s : Stream) :
    ∃ available, Shows total.toNat available ((Generator.mem g).row s) := by
  have havailable := (h.available.answer s).2
  have hused := toNat_left havailable
  rw [← h.total_eq] at *
  refine ⟨_, ?_, ?_, ?_, havailable⟩
  · exact number?_row _ s (i := 0) rfl rfl
  · exact number?_row _ s (i := 1) rfl rfl
  · rw [← hused]
    exact number?_row _ s (i := 2) rfl rfl

end Mem

/-! ## key-value stores -/

namespace Redis

/-- a row of a store with so many clients and bytes in use -/
structure Shows (clients memory : Nat) (row : Point) : Prop where
  clients_eq : row.number? "connected_clients" = some clients
  memory_eq : row.number? "used_memory" = some memory
  clients_le : clients ≤ 10000
  le_memory : 1048576 ≤ memory
  memory_le : memory ≤ 4294967296

structure Ranged (g : Redis) : Prop where
  clients : g.clients.Within 0 maxClients
  memory : g.memory.Within minMemory maxMemory

theorem ranged_new (a : Attributes) : ((new o).run a).1.Ranged where
  clients := IntWalk.within_start _ _ (by decide)
  memory := IntWalk.within_start _ _ (by decide)

variable {g : Redis}

theorem Ranged.tick (h : g.Ranged) (interval : Duration) : (g.tick interval).Ranged := by
  unfold Redis.tick
  exact ⟨h.clients, h.memory⟩

/-- the words for the totals and for the rates are drawn before the clients move -/
theorem Ranged.advance (h : g.Ranged) (s : Stream) : (g.advance.run s).1.2.Ranged where
  clients := h.clients.advance (draw64.run (draw64.run s).2).2
  memory := h.memory.advance (g.clients.advance.run (draw64.run (draw64.run s).2).2).2

theorem Ranged.after (h : g.Ranged) (events : List Event) :
    ∃ g' : Redis, (Generator.redis g).after events = .redis g' ∧ g'.Ranged :=
  after_keeps .redis Ranged (fun _ interval h => ⟨_, rfl, h.tick interval⟩)
    (fun _ s h => ⟨_, rfl, h.advance s⟩) h events

theorem Ranged.shows (h : g.Ranged) (s : Stream) :
    ∃ clients memory, Shows clients memory ((Generator.redis g).row s) := by
  have hclients := h.clients.answer (draw64.run (draw64.run s).2).2
  have hmemory :=
    h.memory.answer (g.clients.advance.run (draw64.run (draw64.run s).2).2).2
  -- the gauges stand behind the uptime and the five totals
  have hgauge : ∀ i key n, Kind.redis.fieldKeys[6 + i]? = some key →
      ((g.advance.run s).1.1.drop 6)[i]? = some (.unsigned n) →
      ((Generator.redis g).row s).number? key = some n.toNat := by
    intro i key n hkey hvalue
    rw [List.getElem?_drop] at hvalue
    exact number?_row _ s hkey hvalue
  obtain ⟨rates, input, output, sys, user, hvalues⟩ := g.values_advance s
  rw [hvalues, List.drop_left' (by simp)] at hgauge
  refine ⟨_, _, ?_, ?_, hclients.2, hmemory.1, hmemory.2⟩
  · exact hgauge 3 _ _ rfl rfl
  · exact hgauge 4 _ _ rfl rfl

end Redis

/-! ## every row -/

/-- **Rows within a capacity.**  Whatever has happened to a generator since it was made, and
whatever it draws: a disk and a memory keep their size, never have more free than that, and use
exactly the difference; and a store has at most ten thousand clients, and between a mebibyte and
four gibibytes in use. -/
theorem rows_within_capacity (start : Int64) (o : Overrides) (a : Attributes) :
    (∃ total inodes, ∀ (events : List Event) (s : Stream), ∃ free inodesFree,
      Disk.Shows total inodes free inodesFree
        ((((new .disk start o).run a).1.after events).row s)) ∧
    (∃ total, ∀ (events : List Event) (s : Stream), ∃ available,
      Mem.Shows total available ((((new .mem start o).run a).1.after events).row s)) ∧
    (∀ (events : List Event) (s : Stream), ∃ clients memory,
      Redis.Shows clients memory ((((new .redis start o).run a).1.after events).row s)) ∧
    (∀ (g : Generator) (p : Point) (s : Stream),
      ((g.emit p).run s).1.2.1.fields = p.fields ++ (g.row s).fields) := by
  have hdisk : ((new .disk start o).run a).1 = .disk ((Disk.new o).run a).1 := rfl
  have hmem : ((new .mem start o).run a).1 = .mem (Mem.new.run a).1 := rfl
  have hredis : ((new .redis start o).run a).1 = .redis ((Redis.new o).run a).1 := rfl
  refine ⟨?_, ?_, ?_, fields_emit⟩
  · obtain ⟨total, inodes, hnew⟩ := Disk.sized_new (o := o) a
    refine ⟨total.toNat, inodes.toNat, fun events s => ?_⟩
    obtain ⟨g, hg, hsized⟩ := hnew.after events
    rw [hdisk, hg]
    exact hsized.shows s
  · obtain ⟨total, hnew⟩ := Mem.sized_new a
    refine ⟨total.toNat, fun events s => ?_⟩
    obtain ⟨g, hg, hsized⟩ := hnew.after events
    rw [hmem, hg]
    exact hsized.shows s
  · intro events s
    obtain ⟨g, hg, hranged⟩ := (Redis.ranged_new (o := o) a).after events
    rw [hredis, hg]
    exact hranged.shows s

end Telemetry.Generator
