import Mathlib.Tactic.Ring
import Telemetry.Proofs.Fleet.Built

/-!
# Places and row numbers

A row number and its place determine each other: the numbers below the total are the places of the
fleet, counted slot by slot, entity by entity, epoch by epoch.

* `rowIndex E M k e m`  the number of the row of slot `m` of entity `e` in epoch `k`, for `E`
                        entities with `M` slots each;
* `Built.place_eq`      the place of a row number, in natural numbers;
* `Built.place_lt`      a number below the total has a place of the fleet;
* `Built.exists_row`    a row number has an entity and a generator;
* `Built.rowIndex_place`, `Built.place_rowIndex`  the two are inverse to each other.
-/

namespace Telemetry.Fleet

/-- the number of the row of slot `m` of entity `e` in epoch `k` -/
def rowIndex (E M k e m : Nat) : Nat := (k * E + e) * M + m

section
variable {E M k e m : Nat}

theorem rowIndex_mod (hm : m < M) : rowIndex E M k e m % M = m := by
  rw [rowIndex, Nat.add_comm, Nat.add_mul_mod_self_right, Nat.mod_eq_of_lt hm]

theorem rowIndex_div (hm : m < M) : rowIndex E M k e m / M = k * E + e := by
  rw [rowIndex, Nat.add_comm, Nat.add_mul_div_right _ _ (by omega), Nat.div_eq_of_lt hm,
    Nat.zero_add]

theorem rowIndex_div_mod (he : e < E) (hm : m < M) : rowIndex E M k e m / M % E = e := by
  rw [rowIndex_div hm, Nat.add_comm, Nat.add_mul_mod_self_right, Nat.mod_eq_of_lt he]

theorem rowIndex_div_rows (he : e < E) (hm : m < M) : rowIndex E M k e m / (E * M) = k := by
  rw [Nat.mul_comm E M, ← Nat.div_div_eq_div_mul, rowIndex_div hm, Nat.add_comm,
    Nat.add_mul_div_right _ _ (by omega), Nat.div_eq_of_lt he, Nat.zero_add]

/-- the rows of the epochs before `K` have the numbers below `K` times the rows of one epoch -/
theorem rowIndex_lt {K : Nat} (hk : k < K) (he : e < E) (hm : m < M) :
    rowIndex E M k e m < E * M * K := by
  have h1 : (k * E + e) * M + m < (k * E + e + 1) * M := by
    rw [Nat.succ_mul]
    omega
  have h2 : k * E + e + 1 ≤ (k + 1) * E := by
    rw [Nat.succ_mul]
    omega
  calc rowIndex E M k e m < (k * E + e + 1) * M := h1
    _ ≤ (k + 1) * E * M := Nat.mul_le_mul_right M h2
    _ ≤ K * (E * M) := by
      rw [Nat.mul_assoc]
      exact Nat.mul_le_mul_right _ hk
    _ = E * M * K := Nat.mul_comm _ _

/-- every number is the number of a row -/
theorem rowIndex_self (E M n : Nat) : rowIndex E M (n / (E * M)) (n / M % E) (n % M) = n := by
  have h1 : n / (E * M) = n / M / E := by
    rw [Nat.mul_comm E M, Nat.div_div_eq_div_mul]
  rw [rowIndex, h1, Nat.mul_comm _ E, Nat.div_add_mod, Nat.mul_comm _ M, Nat.div_add_mod]

theorem rowIndex_next_slot (E M k e m : Nat) :
    rowIndex E M k e (m + 1) = rowIndex E M k e m + 1 := rfl

theorem rowIndex_next_entity (E M k e : Nat) : rowIndex E M k e M = rowIndex E M k (e + 1) 0 := by
  unfold rowIndex
  ring

theorem rowIndex_next_epoch (E M k : Nat) : rowIndex E M k E 0 = rowIndex E M (k + 1) 0 0 := by
  unfold rowIndex
  ring

end

section
variable {entities : List Entity} {window : Window} {interval : Duration} {f : Fleet}

theorem Built.toNat_size (hb : Built entities window interval f) :
    f.entities.size.toUInt64.toNat = entities.length := by
  have hle : entities.length ≤ entities.length * f.slots.toNat :=
    Nat.le_mul_of_pos_right _ hb.slots_pos
  have hlt := f.rowsPerEpoch.toNat_lt_size
  rw [hb.entities_eq, List.size_toArray, Word.toNat_toUInt64_of_lt]
  rw [hb.rows_eq] at hlt
  exact Nat.lt_of_le_of_lt hle hlt

theorem Built.place_eq (hb : Built entities window interval f) (i : UInt64) :
    f.place i = ⟨i.toNat / f.slots.toNat % entities.length, i.toNat % f.slots.toNat,
      (i.toNat / (entities.length * f.slots.toNat)).toUInt64⟩ := by
  unfold place
  rw [UInt64.toNat_mod, UInt64.toNat_div, hb.toNat_size, UInt64.toNat_mod, Place.mk.injEq]
  refine ⟨rfl, rfl, UInt64.toNat_inj.1 ?_⟩
  rw [UInt64.toNat_div, hb.rows_eq, Word.toNat_toUInt64_of_lt]
  exact Nat.lt_of_le_of_lt (Nat.div_le_self _ _) i.toNat_lt_size

theorem Built.toNat_place_epoch (hb : Built entities window interval f) (i : UInt64) :
    (f.place i).epoch.toNat = i.toNat / (entities.length * f.slots.toNat) := by
  rw [hb.place_eq]
  exact Word.toNat_toUInt64_of_lt (Nat.lt_of_le_of_lt (Nat.div_le_self _ _) i.toNat_lt_size)

/-- a number below the total has a place of the fleet -/
theorem Built.place_lt (hb : Built entities window interval f) {i : UInt64} (hi : i < f.total) :
    (f.place i).entity < entities.length ∧ (f.place i).slot < f.slots.toNat ∧
      (f.place i).epoch < f.epochs := by
  have hi' := UInt64.lt_iff_toNat_lt.1 hi
  rw [hb.total_eq, hb.rows_eq] at hi'
  refine ⟨?_, ?_, ?_⟩
  · rw [hb.place_eq]
    exact Nat.mod_lt _ hb.entities_pos
  · rw [hb.place_eq]
    exact Nat.mod_lt _ hb.slots_pos
  · rw [UInt64.lt_iff_toNat_lt, hb.toNat_place_epoch]
    exact Nat.div_lt_of_lt_mul hi'

/-- row number `j` has a generator -/
theorem Built.exists_row (hb : Built entities window interval f) (j : Nat) :
    ∃ e gen, entities[j / f.slots.toNat % entities.length]? = some e ∧
      e.generators[j % f.slots.toNat]? = some gen := by
  have hentity := Nat.mod_lt (j / f.slots.toNat) hb.entities_pos
  have hslot := Nat.mod_lt j hb.slots_pos
  generalize j / f.slots.toNat % entities.length = i at hentity
  rw [← hb.slots_eq _ (List.getElem_mem hentity)] at hslot ⊢
  exact ⟨_, _, List.getElem?_eq_getElem hentity, List.getElem?_eq_getElem hslot⟩

theorem Built.rowIndex_place (hb : Built entities window interval f) (i : UInt64) :
    rowIndex entities.length f.slots.toNat (f.place i).epoch.toNat (f.place i).entity
      (f.place i).slot = i.toNat := by
  rw [hb.toNat_place_epoch, hb.place_eq]
  exact rowIndex_self _ _ _

theorem Built.slot_lt (hb : Built entities window interval f) {i m : Nat} {e : Entity}
    {gen : Generator} (he : entities[i]? = some e) (hgen : e.generators[m]? = some gen) :
    i < entities.length ∧ m < f.slots.toNat := by
  obtain ⟨hi, -⟩ := List.getElem?_eq_some_iff.1 he
  obtain ⟨hm, -⟩ := List.getElem?_eq_some_iff.1 hgen
  rw [hb.slots_eq e (List.mem_of_getElem? he)] at hm
  exact ⟨hi, hm⟩

/-- the number of a place of the fleet is below the total -/
theorem Built.rowIndex_lt_total (hb : Built entities window interval f) {k e m : Nat}
    (hk : k < f.epochs.toNat) (he : e < entities.length) (hm : m < f.slots.toNat) :
    rowIndex entities.length f.slots.toNat k e m < f.total.toNat := by
  rw [hb.total_eq, hb.rows_eq]
  exact rowIndex_lt hk he hm

theorem Built.place_rowIndex (hb : Built entities window interval f) {k e m : Nat}
    (hk : k < f.epochs.toNat) (he : e < entities.length) (hm : m < f.slots.toNat) :
    f.place (rowIndex entities.length f.slots.toNat k e m).toUInt64 = ⟨e, m, k.toUInt64⟩ := by
  have hlt := Nat.lt_trans (hb.rowIndex_lt_total hk he hm) f.total.toNat_lt_size
  rw [hb.place_eq, Word.toNat_toUInt64_of_lt hlt, rowIndex_div_mod he hm, rowIndex_mod hm,
    rowIndex_div_rows he hm]

end

end Telemetry.Fleet
