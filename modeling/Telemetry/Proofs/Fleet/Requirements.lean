import Telemetry.Proofs.Fleet.Acceptance

/-!
# Why entities make no fleet

What must hold of entities, a window and an interval, in the order in which it is looked at.

* `Verdict reqs out`  what some requirements, each with a fault, lead to: the fault of the first one
                      that is not met, or a fleet where all are;
* `FirstUnmet`        the first requirement that is not met, said of the list as a whole;
* `requirements`      what is required of a fleet, in whole numbers;
* `verdict_ofEntities`, `ofEntities_first_unmet`  and that it is what decides.
-/

namespace Telemetry.Fleet

/-! ## requirements in a row -/

inductive Verdict : List (Prop × ConfigFault) → Except ConfigFault Fleet → Prop where
  | met (f : Fleet) : Verdict [] (.ok f)
  | unmet {p : Prop} {fault : ConfigFault} {rest : List (Prop × ConfigFault)} (h : ¬ p) :
    Verdict ((p, fault) :: rest) (.error fault)
  | next {p : Prop} {fault : ConfigFault} {rest : List (Prop × ConfigFault)}
    {out : Except ConfigFault Fleet} (h : p) (hrest : Verdict rest out) :
    Verdict ((p, fault) :: rest) out

/-- the fault belongs to a requirement that is not met, and all before that one are -/
def FirstUnmet (reqs : List (Prop × ConfigFault)) (fault : ConfigFault) : Prop :=
  ∃ before p after, reqs = before ++ (p, fault) :: after ∧ (∀ r ∈ before, r.1) ∧ ¬ p

theorem not_firstUnmet_nil (fault : ConfigFault) : ¬ FirstUnmet [] fault := by
  rintro ⟨before, p, after, h, -⟩
  exact List.append_ne_nil_of_right_ne_nil before (List.cons_ne_nil _ after) h.symm

theorem firstUnmet_cons {p : Prop} {fault fault' : ConfigFault}
    {rest : List (Prop × ConfigFault)} :
    FirstUnmet ((p, fault) :: rest) fault'
      ↔ (¬ p ∧ fault = fault') ∨ (p ∧ FirstUnmet rest fault') := by
  constructor
  · rintro ⟨before, q, after, h, hbefore, hq⟩
    cases before with
    | nil =>
      obtain ⟨hhead, -⟩ := List.cons.inj h
      obtain ⟨rfl, rfl⟩ := Prod.mk.inj hhead
      exact .inl ⟨hq, rfl⟩
    | cons r before =>
      obtain ⟨rfl, hrest⟩ := List.cons.inj h
      have hp : p := hbefore (p, fault) List.mem_cons_self
      exact .inr ⟨hp, before, q, after, hrest,
        fun r hr => hbefore r (List.mem_cons_of_mem _ hr), hq⟩
  · rintro (⟨hp, rfl⟩ | ⟨hp, before, q, after, hrest, hbefore, hq⟩)
    · exact ⟨[], p, rest, rfl, by simp, hp⟩
    · refine ⟨(p, fault) :: before, q, after, by simp [hrest], ?_, hq⟩
      intro r hr
      rcases List.mem_cons.1 hr with rfl | hr
      · exact hp
      · exact hbefore r hr

namespace Verdict
variable {reqs : List (Prop × ConfigFault)} {out : Except ConfigFault Fleet}

/-- there is a fleet exactly where all is met -/
theorem ok_iff (h : Verdict reqs out) : (∃ f, out = .ok f) ↔ ∀ r ∈ reqs, r.1 := by
  induction h with
  | met f => simp
  | unmet hp => simp [hp]
  | next hp _ ih => simp [hp, ih]

/-- there is a fault exactly where it is the first one -/
theorem error_iff (h : Verdict reqs out) (fault : ConfigFault) :
    out = .error fault ↔ FirstUnmet reqs fault := by
  induction h with
  | met f => simp [not_firstUnmet_nil]
  | unmet hp => simp [firstUnmet_cons, hp]
  | next hp _ ih => simp [firstUnmet_cons, hp, ih]

/-- a check, and what comes after it -/
theorem check {p c : Prop} [Decidable c] {fault : ConfigFault} (hc : c ↔ ¬ p)
    (hrest : p → Verdict reqs out) :
    Verdict ((p, fault) :: reqs) (if c then .error fault else out) := by
  by_cases hp : p
  · rw [if_neg fun h => hc.1 h hp]
    exact .next hp (hrest hp)
  · rw [if_pos (hc.2 hp)]
    exact .unmet hp

end Verdict

/-! ## the requirements of a fleet -/

section
variable {first : Entity} {rest : List Entity} {window : Window} {interval : Duration}

/-- what is looked at, in this order; the rows of all epochs are counted last -/
def requirements (first : Entity) (entities : List Entity) (window : Window)
    (interval : Duration) : List (Prop × ConfigFault) :=
  [(0 < first.generators.length, .noMeasurements),
    (Uniform first.generators.length first.tagKeys entities, .unequalEntities),
    (0 < interval.toNanos ∧ interval.toNanos ≤ 9223372036854775807, .badInterval interval),
    (window.start.toInt < window.stop.toInt, .emptyWindow window),
    (window.stop.toInt - window.start.toInt ≤ 9223372036854775807, .wideWindow window),
    (entities.length * first.generators.length
      * ((window.stop.toInt - window.start.toInt).toNat ⌈/⌉ interval.toNanos) < 2 ^ 64,
      .tooManyPoints)]

theorem all_fits_iff {m : Nat} {keys : List String} {entities : List Entity} :
    entities.all (fits m keys) = true ↔ Uniform m keys entities := by
  rw [List.all_eq_true]
  constructor
  · intro h
    exact ⟨fun e he => (of_fits (h e he)).1, fun e he => (of_fits (h e he)).2⟩
  · intro h e he
    simp [fits, h.length_eq e he, h.keys_eq e he]

theorem intervalNanos?_eq_none_iff : intervalNanos? interval = none ↔
    ¬ (0 < interval.toNanos ∧ interval.toNanos ≤ 9223372036854775807) := by
  unfold intervalNanos?
  by_cases hzero : interval.isZero = true
  · have hnanos := Duration.isZero_iff.1 hzero
    simp [hzero, hnanos]
  · have hpos : 0 < interval.toNanos :=
      Nat.pos_of_ne_zero fun h => hzero (Duration.isZero_iff.2 h)
    rw [if_neg hzero, Word.signed?_eq_none_iff]
    omega

theorem length?_eq_none_iff (h : window.start.toInt < window.stop.toInt) :
    window.length? = none ↔ ¬ (window.stop.toInt - window.start.toInt ≤ 9223372036854775807) := by
  unfold Window.length?
  rw [Word.signed?_eq_none_iff]
  omega

/-- the checks of a fleet look at these requirements -/
theorem verdict_ofEntities (hrows : (first :: rest).length * first.generators.length < 2 ^ 64) :
    Verdict (requirements first (first :: rest) window interval)
      (ofEntities (first :: rest) window interval) := by
  unfold ofEntities requirements
  refine .check (by omega) fun hm => .check ?_ fun huniform => ?_
  · rw [← all_fits_iff, Bool.not_eq_true', Bool.not_eq_true]
  cases hstep : intervalNanos? interval with
  | none => exact .unmet (intervalNanos?_eq_none_iff.1 hstep)
  | some step =>
    obtain ⟨hnanos, hpos⟩ := intervalNanos?_eq_some hstep
    have hlt := step.toInt_lt
    refine .next ⟨hpos, by omega⟩ (.check ?_ fun hwindow => ?_)
    · rw [← Window.not_isEmpty_iff, not_not]
    cases hspan : window.length? with
    | none => exact .unmet ((length?_eq_none_iff hwindow).1 hspan)
    | some span =>
      have hlength := length?_eq_some hspan
      have hspanlt := span.toInt_lt
      have hfirst : 0 < (first :: rest).length := Nat.succ_pos rest.length
      have htotal : ((first :: rest).length.toUInt64 * first.generators.length.toUInt64).toNat
            * epochCount span.toInt.toNat step.toInt.toNat
          = (first :: rest).length * first.generators.length
            * ((window.stop.toInt - window.start.toInt).toNat ⌈/⌉ interval.toNanos) := by
        rw [toNat_rows hfirst hm hrows, hlength, hnanos]
        rfl
      refine .next (by omega) ?_
      simp only [htotal]
      by_cases hfew : (first :: rest).length * first.generators.length
          * ((window.stop.toInt - window.start.toInt).toNat ⌈/⌉ interval.toNanos) < 2 ^ 64
      · exact .next hfew (if_pos hfew ▸ .met _)
      · exact if_neg hfew ▸ .unmet hfew

/-- **Why there is no fleet.**  There is one exactly where all the requirements are met, and otherwise
the fault is that of the first one that is not.  The counts of a fleet are those of the requirements,
and nothing has been made, asked for or stored so far. -/
theorem ofEntities_first_unmet
    (hrows : (first :: rest).length * first.generators.length < 2 ^ 64) (window : Window)
    (interval : Duration) :
    ((∃ f, ofEntities (first :: rest) window interval = .ok f)
      ↔ ∀ r ∈ requirements first (first :: rest) window interval, r.1) ∧
    (∀ fault, ofEntities (first :: rest) window interval = .error fault
      ↔ FirstUnmet (requirements first (first :: rest) window interval) fault) ∧
    ∀ f, ofEntities (first :: rest) window interval = .ok f →
      f.epochs.toNat = (window.stop.toInt - window.start.toInt).toNat ⌈/⌉ interval.toNanos ∧
      f.rowsPerEpoch.toNat = (first :: rest).length * first.generators.length ∧
      f.total.toNat = (first :: rest).length * first.generators.length
        * ((window.stop.toInt - window.start.toInt).toNat ⌈/⌉ interval.toNanos) ∧
      f.made = 0 ∧ f.values = 0 ∧ f.queries = 0 ∧ f.written = 0 := by
  have hverdict : Verdict (requirements first (first :: rest) window interval) _ :=
    verdict_ofEntities hrows
  refine ⟨hverdict.ok_iff, hverdict.error_iff, ?_⟩
  intro f hf
  have huniform : Uniform first.generators.length first.tagKeys (first :: rest) :=
    hverdict.ok_iff.1 ⟨f, hf⟩ _ (List.mem_cons_of_mem _ List.mem_cons_self)
  have hb := built_of_ofEntities hf (huniform.countable hrows)
  have hslots := hb.slots_uniform huniform
  exact ⟨hb.epochs_eq, by rw [hb.rows_eq, hslots], hb.total_uniform huniform, hb.made_eq,
    hb.values_eq, hb.queries_eq, hb.written_eq⟩

/-- a window that ends before it starts, and an interval of no length: the interval is reported -/
theorem ofEntities_first_unmet_two_hosts : twoHosts.length * 1 < 2 ^ 64 ∧
    ofEntities twoHosts ⟨5, 3⟩ (.ofSeconds 0) = .error (.badInterval (.ofSeconds 0)) := by
  have hrows : twoHosts.length * 1 < 2 ^ 64 := by decide
  obtain ⟨-, hfault, -⟩ := @ofEntities_first_unmet ⟨0, [⟨"hostname", "host_0"⟩], [.cpu], 0⟩
    [⟨1, [⟨"hostname", "host_1"⟩], [.cpu], 0⟩] hrows ⟨5, 3⟩ (.ofSeconds 0)
  have hkeys : twoHosts.all (fits 1 ["hostname"]) = true := by decide
  have hinterval : ¬ (0 < (Duration.ofSeconds 0).toNanos ∧
      (Duration.ofSeconds 0).toNanos ≤ 9223372036854775807) := by decide
  refine ⟨hrows, (hfault _).2 ?_⟩
  apply firstUnmet_cons.2
  refine .inr ⟨Nat.one_pos, firstUnmet_cons.2 (.inr ⟨all_fits_iff.1 hkeys, ?_⟩)⟩
  exact firstUnmet_cons.2 (.inl ⟨hinterval, rfl⟩)

end

end Telemetry.Fleet
