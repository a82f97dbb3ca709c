import Mathlib.Tactic.Common
import Telemetry.Generator.Basic
import Telemetry.Proofs.Random.Slice

/-!
# What a row adds to the totals

The generators with totals add to them, with each row, what the bits of one draw say.  No addend is
large, and the addends of one row stand in relations that sums keep.

* `Kind.added`     the addends of a row as the generators compute them, in words;
* `Kind.growth`    the same by key, in natural numbers, and `added_eq`: they are the same;
* `Kind.growth_le` the largest addend;
* `Kind.total`     the sum of what several rows add to the total with a key;
* `Kind.Related`   how the totals of one row stand to each other.
-/

namespace Telemetry

open Telemetry.Random Telemetry.Generator

/-! ## what a row adds -/

namespace Kind

/-- what a row adds to the totals, by the first word that it draws -/
def added : Kind → UInt64 → List UInt64
  | .diskIo, word => (DiskIo.amounts word).toList
  | .kernel, word => (Kernel.amounts word).toList
  | .net, word => (Net.amounts word).toList
  | .nginx, word =>
    [Nginx.accepted word, Nginx.accepted word - Nginx.dropped word, Nginx.requested word]
  | .redis, word => (Redis.amounts word).toList
  | .cpu, _ | .disk, _ | .mem, _ | .cityUtility, _ => []

/-- the totals in the rows of a kind, each with what a row adds to it -/
def growth : Kind → List (String × (UInt64 → Nat))
  | .diskIo =>
    [("reads", cut 0 9), ("writes", cut 9 9),
      ("read_bytes", fun w => 512 * cut 18 9 w), ("write_bytes", fun w => 512 * cut 27 9 w),
      ("read_time", cut 36 9), ("write_time", cut 45 9), ("io_time", cut 54 9)]
  | .kernel =>
    [("interrupts", cut 0 12), ("context_switches", cut 12 12), ("processes_forked", cut 24 12),
      ("disk_pages_in", cut 36 12), ("disk_pages_out", cut 48 12)]
  | .net =>
    [("bytes_sent", fun w => cut 0 8 w * (cut 16 8 w + 64)),
      ("bytes_recv", fun w => cut 8 8 w * (cut 24 8 w + 64)),
      ("packets_sent", cut 0 8), ("packets_recv", cut 8 8),
      ("err_in", fun w => if cut 32 8 w = 255 then 1 else 0),
      ("err_out", fun w => if cut 40 8 w = 255 then 1 else 0),
      ("drop_in", fun w => if cut 48 8 w = 255 then 1 else 0),
      ("drop_out", fun w => if cut 56 8 w = 255 then 1 else 0)]
  | .nginx =>
    [("accepts", cut 0 8), ("handled", fun w => cut 0 8 w - if cut 8 4 w = 0 then 1 else 0),
      ("requests", fun w => cut 0 8 w * (1 + cut 12 3 w))]
  | .redis =>
    [("total_connections_received", cut 0 8), ("expired_keys", cut 8 8), ("evicted_keys", cut 16 8),
      ("keyspace_hits", cut 24 8), ("keyspace_misses", cut 32 8)]
  | .cpu | .disk | .mem | .cityUtility => []

/-- the number of fields in front of the totals -/
def before : Kind → Nat
  | .kernel | .redis => 1
  | _ => 0

theorem keys_growth (kind : Kind) :
    kind.growth.map Prod.fst <+: kind.fieldKeys.drop kind.before := by
  cases kind <;> exact ⟨_, rfl⟩

end Kind

namespace Generator

theorem eq_toUInt64 {w : UInt64} {n : Nat} (h : w.toNat = n) : w = n.toUInt64 := by
  rw [← h]
  exact UInt64.ofNat_toNat.symm

section
variable (word : UInt64) {offset offset' : UInt32}

theorem slice_eq {width : UInt32} (hoffset : offset.toNat < 64) (hwidth : width.toNat ≤ 32) :
    (bitsAt word offset width).toUInt64 = (cut offset.toNat width.toNat word).toUInt64 :=
  eq_toUInt64 (toNat_bitsAt hoffset hwidth word)

theorem DiskIo.bytes_eq (h : offset.toNat < 64) :
    (bitsAt word offset 9).toUInt64 * sector = (512 * cut offset.toNat 9 word).toUInt64 := by
  rw [slice_eq word h (by decide), UInt64.mul_comm]
  exact (UInt64.ofNat_mul 512 _).symm

theorem DiskIo.toList_amounts :
    (amounts word).toList = Kind.diskIo.growth.map fun t => (t.2 word).toUInt64 := by
  simp only [amounts, Kind.growth, bits, Vector.toList_mk, List.map, List.cons.injEq, and_true]
  refine ⟨?_, ?_, bytes_eq word (by decide), bytes_eq word (by decide), ?_, ?_, ?_⟩
  all_goals exact slice_eq word (by decide) (by decide)

theorem Kernel.toList_amounts :
    (amounts word).toList = Kind.kernel.growth.map fun t => (t.2 word).toUInt64 := by
  simp only [amounts, Kind.growth, bits, Vector.toList_ofFn, List.ofFn_succ, List.ofFn_zero,
    List.map, List.cons.injEq, and_true]
  and_intros <;> exact slice_eq word (by decide) (by decide)

theorem Redis.toList_amounts :
    (amounts word).toList = Kind.redis.growth.map fun t => (t.2 word).toUInt64 := by
  simp only [amounts, Kind.growth, bits, Vector.toList_ofFn, List.ofFn_succ, List.ofFn_zero,
    List.map, List.cons.injEq, and_true]
  and_intros <;> exact slice_eq word (by decide) (by decide)

theorem Net.bytes_eq (h : offset.toNat < 64) (h' : offset'.toNat < 64) :
    (bitsAt word offset 8).toUInt64 * ((bitsAt word offset' 8).toUInt64 % mtu + 64)
      = (cut offset.toNat 8 word * (cut offset'.toNat 8 word + 64)).toUInt64 := by
  have hnat : (bitsAt word offset' 8).toUInt64.toNat = cut offset'.toNat 8 word :=
    toNat_bitsAt h' (by decide) word
  have hsize : (bitsAt word offset' 8).toUInt64 % mtu + 64
      = (cut offset'.toNat 8 word + 64).toUInt64 := by
    -- eight bits stay below the largest packet, so the remainder is the slice
    have hlt := cut_lt offset'.toNat 8 word
    apply eq_toUInt64
    rw [UInt64.toNat_add, UInt64.toNat_mod, hnat]
    show (cut offset'.toNat 8 word % 1500 + 64) % 18446744073709551616 = _
    omega
  rw [slice_eq word h (by decide), hsize]
  exact (UInt64.ofNat_mul _ _).symm

theorem Net.rare_eq (h : offset.toNat < 64) :
    rare (bitsAt word offset 8).toUInt64
      = (if cut offset.toNat 8 word = 255 then 1 else 0 : Nat).toUInt64 := by
  have hnat : (bitsAt word offset 8).toUInt64.toNat = cut offset.toNat 8 word :=
    toNat_bitsAt h (by decide) word
  have hall : (bitsAt word offset 8).toUInt64 = 255 ↔ cut offset.toNat 8 word = 255 := by
    rw [← UInt64.toNat_inj, hnat]
    exact Iff.rfl
  rw [rare]
  by_cases hset : cut offset.toNat 8 word = 255
  · rw [if_pos hset, if_pos (hall.2 hset)]
    rfl
  · rw [if_neg hset, if_neg (mt hall.1 hset)]
    rfl

theorem Net.toList_amounts :
    (amounts word).toList = Kind.net.growth.map fun t => (t.2 word).toUInt64 := by
  simp only [amounts, Kind.growth, bits, Vector.toList_mk, List.map, List.cons.injEq, and_true]
  refine ⟨bytes_eq word (by decide) (by decide), bytes_eq word (by decide) (by decide),
    slice_eq word (by decide) (by decide), slice_eq word (by decide) (by decide), ?_, ?_, ?_, ?_⟩
  all_goals exact rare_eq word (by decide)

theorem Nginx.toNat_accepted : (accepted word).toNat = cut 0 8 word :=
  toNat_bitsAt (by decide) (by decide) word

theorem Nginx.toNat_dropped :
    (dropped word).toNat = if cut 8 4 word = 0 ∧ 0 < cut 0 8 word then 1 else 0 := by
  have hnat : (bitsAt word 8 4).toNat = cut 8 4 word := toNat_bitsAt (by decide) (by decide) word
  have hlost : bitsAt word 8 4 = 0 ↔ cut 8 4 word = 0 := by
    rw [← UInt32.toNat_inj, hnat]
    exact Iff.rfl
  have hpositive : 0 < accepted word ↔ 0 < cut 0 8 word := by
    rw [UInt64.lt_iff_toNat_lt, toNat_accepted]
    exact Iff.rfl
  simp only [dropped, hlost, hpositive]
  split <;> rfl

theorem Nginx.toList_amounts :
    [accepted word, accepted word - dropped word, requested word]
      = Kind.nginx.growth.map fun t => (t.2 word).toUInt64 := by
  have hpipeline : 1 + (bitsAt word 12 3).toUInt64 = (1 + cut 12 3 word).toUInt64 := by
    rw [slice_eq word (by decide) (by decide)]
    exact (UInt64.ofNat_add 1 _).symm
  simp only [Kind.growth, List.map, List.cons.injEq, and_true]
  refine ⟨eq_toUInt64 (toNat_accepted word), eq_toUInt64 ?_, ?_⟩
  · -- nothing is dropped where nothing is accepted, so the difference does not wrap around
    have hle : dropped word ≤ accepted word := by
      rw [UInt64.le_iff_toNat_le, toNat_dropped, toNat_accepted]
      split <;> omega
    rw [UInt64.toNat_sub_of_le _ _ hle, toNat_dropped, toNat_accepted]
    split <;> split <;> omega
  · rw [requested, eq_toUInt64 (toNat_accepted word), hpipeline]
    exact (UInt64.ofNat_mul _ _).symm

end

end Generator

namespace Kind
variable (kind : Kind)

theorem added_eq (word : UInt64) :
    kind.added word = kind.growth.map fun t => (t.2 word).toUInt64 := by
  cases kind with
  | diskIo => exact DiskIo.toList_amounts word
  | kernel => exact Kernel.toList_amounts word
  | net => exact Net.toList_amounts word
  | nginx => exact Nginx.toList_amounts word
  | redis => exact Redis.toList_amounts word
  | cpu | disk | mem | cityUtility => rfl

/-- no row adds more than a quarter of a mebibyte to a total -/
theorem growth_le (word : UInt64) : ∀ t ∈ kind.growth, t.2 word ≤ 262144 := by
  have hslice : ∀ {offset width : Nat}, width ≤ 18 → cut offset width word ≤ 262144 := fun h =>
    (Nat.le_of_lt (cut_lt _ _ word)).trans (Nat.pow_le_pow_right (by decide) h)
  have hsectors : ∀ {offset : Nat}, 512 * cut offset 9 word ≤ 262144 := fun {offset} => by
    have hlt := cut_lt offset 9 word
    omega
  have hproduct : ∀ {offset n : Nat}, n ≤ 319 → cut offset 8 word * n ≤ 262144 := fun h =>
    (Nat.mul_le_mul (Nat.le_of_lt (cut_lt _ 8 word)) h).trans (by decide)
  have hbit : ∀ {offset : Nat}, (if cut offset 8 word = 255 then 1 else 0) ≤ 262144 := by
    intro offset
    split <;> decide
  cases kind with
  | cpu | disk | mem | cityUtility => exact fun _ ht => nomatch ht
  | diskIo =>
    simp only [growth, List.forall_mem_cons]
    exact ⟨hslice (by decide), hslice (by decide), hsectors, hsectors, hslice (by decide),
      hslice (by decide), hslice (by decide), List.forall_mem_nil _⟩
  | kernel | redis =>
    simp only [growth, List.forall_mem_cons]
    exact ⟨hslice (by decide), hslice (by decide), hslice (by decide), hslice (by decide),
      hslice (by decide), List.forall_mem_nil _⟩
  | net =>
    have hsize : ∀ {offset : Nat}, cut offset 8 word + 64 ≤ 319 := fun {offset} => by
      have hlt := cut_lt offset 8 word
      omega
    simp only [growth, List.forall_mem_cons]
    exact ⟨hproduct hsize, hproduct hsize, hslice (by decide), hslice (by decide), hbit, hbit, hbit,
      hbit, List.forall_mem_nil _⟩
  | nginx =>
    have hpipeline : 1 + cut 12 3 word ≤ 319 := by
      have hlt := cut_lt 12 3 word
      omega
    simp only [growth, List.forall_mem_cons]
    exact ⟨hslice (by decide), (Nat.sub_le _ _).trans (hslice (by decide)), hproduct hpipeline,
      List.forall_mem_nil _⟩

/-! ## how totals stand to each other -/

/-- how the totals of one row, the last of so many, stand to each other -/
def Related (rows : Nat) (total : String → Nat) : Kind → Prop
  | .nginx =>
    total "handled" ≤ total "accepts" ∧ total "accepts" ≤ total "requests" ∧
      total "requests" ≤ 8 * total "accepts" ∧ total "accepts" - total "handled" ≤ rows
  | .net =>
    (∀ t ∈ [("packets_sent", "bytes_sent"), ("packets_recv", "bytes_recv")],
      64 * total t.1 ≤ total t.2 ∧ total t.2 ≤ 319 * total t.1) ∧
      ∀ key ∈ ["err_in", "err_out", "drop_in", "drop_out"], total key ≤ rows
  | .diskIo => 512 ∣ total "read_bytes" ∧ 512 ∣ total "write_bytes"
  | .kernel | .redis | .cpu | .disk | .mem | .cityUtility => True

theorem related_zero : kind.Related 0 fun _ => 0 := by
  cases kind <;> simp [Related]

variable {kind}

theorem Related.add {m n : Nat} {f g : String → Nat} (hf : kind.Related m f)
    (hg : kind.Related n g) : kind.Related (m + n) fun key => f key + g key := by
  cases kind with
  | nginx =>
    obtain ⟨h1, h2, h3, h4⟩ := hf
    obtain ⟨h1', h2', h3', h4'⟩ := hg
    refine ⟨?_, ?_, ?_, ?_⟩ <;> dsimp only <;> omega
  | net =>
    refine ⟨fun t ht => ?_, fun key hkey => Nat.add_le_add (hf.2 key hkey) (hg.2 key hkey)⟩
    obtain ⟨h1, h2⟩ := hf.1 t ht
    obtain ⟨h1', h2'⟩ := hg.1 t ht
    dsimp only
    omega
  | diskIo => exact ⟨Nat.dvd_add hf.1 hg.1, Nat.dvd_add hf.2 hg.2⟩
  | cpu | disk | kernel | mem | redis | cityUtility => trivial

/-- what a row adds to the total with a key -/
def gain (kind : Kind) (key : String) (word : UInt64) : Nat :=
  match kind.growth.find? (·.1 == key) with
  | some t => t.2 word
  | none => 0

theorem gain_eq : ∀ t ∈ kind.growth, kind.gain t.1 = t.2 := by
  cases kind with
  | cpu | disk | mem | cityUtility => exact fun _ ht => nomatch ht
  | diskIo | kernel | net | nginx | redis =>
    simp only [growth, List.forall_mem_cons]
    and_intros
    all_goals first | rfl | exact List.forall_mem_nil _

/-- the total with a key, where the rows have drawn such words -/
def total (kind : Kind) (words : List UInt64) (key : String) : Nat :=
  (words.map (kind.gain key)).sum

theorem related_gain (word : UInt64) : kind.Related 1 fun key => kind.gain key word := by
  cases kind with
  | nginx =>
    have hlt := cut_lt 12 3 word
    show (cut 0 8 word - if cut 8 4 word = 0 then 1 else 0) ≤ cut 0 8 word ∧
      cut 0 8 word ≤ cut 0 8 word * (1 + cut 12 3 word) ∧
      cut 0 8 word * (1 + cut 12 3 word) ≤ 8 * cut 0 8 word ∧
      cut 0 8 word - (cut 0 8 word - if cut 8 4 word = 0 then 1 else 0) ≤ 1
    refine ⟨Nat.sub_le _ _, Nat.le_mul_of_pos_right _ (by omega), ?_, ?_⟩
    · rw [Nat.mul_comm]
      exact Nat.mul_le_mul_right _ (by omega)
    · split <;> omega
  | net =>
    have hbytes : ∀ packets offset, 64 * packets ≤ packets * (cut offset 8 word + 64) ∧
        packets * (cut offset 8 word + 64) ≤ 319 * packets := by
      intro packets offset
      have hlt := cut_lt offset 8 word
      rw [Nat.mul_comm packets]
      exact ⟨Nat.mul_le_mul_right _ (by omega), Nat.mul_le_mul_right _ (by omega)⟩
    have hbit : ∀ offset, (if cut offset 8 word = 255 then 1 else 0) ≤ 1 := by
      intro offset
      split <;> decide
    refine ⟨?_, ?_⟩
    · simp only [List.forall_mem_cons]
      exact ⟨hbytes _ _, hbytes _ _, List.forall_mem_nil _⟩
    · simp only [List.forall_mem_cons]
      exact ⟨hbit _, hbit _, hbit _, hbit _, List.forall_mem_nil _⟩
  | diskIo => exact ⟨Nat.dvd_mul_right 512 _, Nat.dvd_mul_right 512 _⟩
  | cpu | disk | kernel | mem | redis | cityUtility => trivial

theorem related_total (words : List UInt64) : kind.Related words.length (kind.total words) := by
  -- on the rows: the relations of one row, and of those after it, add up
  induction words with
  | nil => exact kind.related_zero
  | cons word words ih =>
    rw [List.length_cons, Nat.add_comm]
    exact (related_gain word).add ih

end Kind

end Telemetry
