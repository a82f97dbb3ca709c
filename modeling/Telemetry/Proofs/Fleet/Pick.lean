import Telemetry.Proofs.Fleet.Built
import Telemetry.Proofs.Random.Share
import Telemetry.Template.Render

/-!
# Picks of an entity

A query draws its entities by their index, and the draws are shared out among the indices.

* `drawable_source`  the entities that can be drawn are those of the fleet, if 32 bits count them;
* `picks_balanced`   the shares of the entities, and that each of them can be picked.
-/

namespace Telemetry.Fleet

open Telemetry.Random Telemetry.Template

theorem drawable_source {f : Fleet} {n : UInt32} (h : f.entities.size = n.toNat) :
    f.source.drawable = n := by
  have hlt := n.toNat_lt
  apply UInt32.toNat_inj.1
  show f.entities.size.toUInt64.toUInt32.toNat = n.toNat
  rw [UInt64.toNat_toUInt32, Word.toNat_toUInt64_of_lt (by rw [h, UInt64.size]; omega), h]
  exact Nat.mod_eq_of_lt hlt

theorem pick_run (src : Source) (sink : Sink) (s : Stream) :
    ((pick src).run.run sink).run s
      = ((.ok (reduce (draw32.run s).1 src.drawable), sink), s.after 1) := rfl

/-- **Draws are shared out evenly.**  A draw below `n` is one of 32 bits, reduced, and so below `n`.
Of all these draws every index has the `n`-th part, rounded down or up, so the shares of two indices
differ by one draw at most.  A query of a fleet with `n` entities picks its entities with such draws,
and for each of them there is a seed whose first draw picks it. -/
theorem picks_balanced {n : UInt32} (hn : 0 < n.toNat) :
    (∀ s : Stream, (below n).run s = (reduce (draw32.run s).1 n, s.after 1)) ∧
    (∀ d, (reduce d n).toNat < n.toNat) ∧
    (∀ k : UInt32, k.toNat < n.toNat →
      share n k = 4294967296 / n.toNat ∨ share n k = 4294967296 ⌈/⌉ n.toNat) ∧
    (∀ k other : UInt32, k.toNat < n.toNat → other.toNat < n.toNat →
      share n k ≤ share n other + 1) ∧
    ∀ f : Fleet, f.entities.size = n.toNat →
      (∀ sink (s : Stream), ((pick f.source).run.run sink).run s
        = ((.ok (reduce (draw32.run s).1 n), sink), s.after 1)) ∧
      ∀ k : UInt32, k.toNat < f.entities.size → ∃ seed, ∀ sink,
        ((pick f.source).run.run sink).run (Stream.ofSeed seed)
          = ((.ok k, sink), (Stream.ofSeed seed).after 1) := by
  refine ⟨below_run n, fun d => reduce_lt d hn, share_eq_or,
    fun k other hk hother => share_le_succ hk hother, fun f hsize => ?_⟩
  have hpick : ∀ sink (s : Stream), ((pick f.source).run.run sink).run s
      = ((.ok (reduce (draw32.run s).1 n), sink), s.after 1) := by
    intro sink s
    rw [pick_run, drawable_source hsize]
  refine ⟨hpick, fun k hk => ?_⟩
  obtain ⟨d, hd⟩ := exists_reduce (n := n) (by rwa [hsize] at hk)
  obtain ⟨seed, hseed⟩ := exists_draw32 d
  refine ⟨seed, fun sink => ?_⟩
  rw [hpick, hseed, hd]

/-- three hosts, which cannot have equal shares -/
theorem picks_balanced_three_hosts :
    0 < (3 : UInt32).toNat ∧ (share 3 1 = 1431655765 ∨ share 3 1 = 1431655766) ∧
    share 3 0 ≤ share 3 2 + 1 ∧
    ∃ f, ofEntities (twoHosts ++ [⟨2, [⟨"hostname", "host_2"⟩], [.cpu], 0⟩]) ⟨0, 3000000000⟩
        (.ofSeconds 1) = .ok f ∧
      ∃ seed, ∀ sink, ((pick f.source).run.run sink).run (Stream.ofSeed seed)
        = ((.ok 2, sink), (Stream.ofSeed seed).after 1) := by
  have hpos : 0 < (3 : UInt32).toNat := by decide
  obtain ⟨-, -, hshare, hdiffer, hpick⟩ := picks_balanced hpos
  refine ⟨hpos, hshare 1 (by decide), hdiffer 0 2 (by decide) (by decide), _, rfl, ?_⟩
  exact (hpick _ rfl).2 2 (by decide)

end Telemetry.Fleet
