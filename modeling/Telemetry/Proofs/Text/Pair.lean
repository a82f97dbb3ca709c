import Mathlib.Data.List.Infix
import Telemetry.Text.Cut

/-!
# Cutting at the first pair

`cutPair?` cuts a text at the leftmost place where a character stands twice in a row.

* `PairAtEnd c part`   with the pair `cc` written behind it, `part` shows that pair at the very end
                       and nowhere before;
* `pairAtEnd_iff`      that is, `part` has no such pair and does not end in `c`;
* `cutPair?_eq_some`   a cut is such a part, the pair, and any rest, so the cut is unique;
* `cutPair?_eq_none`   a text is left whole exactly where it has no such pair.
-/

namespace Telemetry.Text

/-- in `part` followed by `cc`, the pair `cc` occurs only at the very end -/
def PairAtEnd (c : Char) (part : List Char) : Prop :=
  ∀ u v, part ++ [c, c] = u ++ c :: c :: v → v = []

theorem pairAtEnd_nil (c : Char) : PairAtEnd c [] := by
  intro u v h
  have hlen := congrArg List.length h
  simp only [List.nil_append, List.length_append, List.length_cons, List.length_nil] at hlen
  exact List.eq_nil_of_length_eq_zero (by omega)

/-- one more character in front makes a new pair only together with the one behind it -/
theorem pairAtEnd_cons {c a : Char} {part : List Char} :
    PairAtEnd c (a :: part) ↔ PairAtEnd c part ∧ ¬ (a = c ∧ ∃ rest, part ++ [c, c] = c :: rest) := by
  constructor
  · intro h
    refine ⟨fun u v huv => h (a :: u) v (by rw [List.cons_append, huv, List.cons_append]), ?_⟩
    rintro ⟨rfl, rest, hrest⟩
    have hv : rest = [] := h [] rest (by rw [List.cons_append, hrest, List.nil_append])
    have hlen := congrArg List.length hrest
    rw [hv, List.length_append] at hlen
    simp at hlen
  · rintro ⟨hpart, hne⟩ u v huv
    cases u with
    | nil =>
      obtain ⟨ha, hrest⟩ := List.cons.inj huv
      exact absurd ⟨ha, v, hrest⟩ hne
    | cons b u => exact hpart u v (List.cons.inj huv).2

theorem pairAtEnd_iff {c : Char} {part : List Char} :
    PairAtEnd c part ↔ ¬ [c, c] <:+: part ∧ ¬ [c] <:+ part := by
  constructor
  · intro h
    refine ⟨?_, ?_⟩
    · rintro ⟨u, v, rfl⟩
      have hv : v ++ [c, c] = [] := h u (v ++ [c, c]) (by simp)
      exact List.append_ne_nil_of_right_ne_nil v (List.cons_ne_nil c [c]) hv
    · rintro ⟨u, rfl⟩
      exact List.cons_ne_nil c [] (h u [c] (by simp))
  · rintro ⟨hpair, hend⟩ u v huv
    -- a pair with something behind it would end one or more characters before the end
    rcases List.eq_nil_or_concat v with rfl | ⟨v, a, rfl⟩
    · rfl
    have hcut : part ++ [c] = u ++ c :: c :: v := by
      have hlast : part ++ [c] ++ [c] = u ++ c :: c :: v ++ [a] := by simpa using huv
      exact List.append_inj_left' hlast rfl
    rcases List.eq_nil_or_concat v with rfl | ⟨v, b, rfl⟩
    · have hlast : part ++ [c] = u ++ [c] ++ [c] := by simpa using hcut
      exact absurd ⟨u, (List.append_inj_left' hlast rfl).symm⟩ hend
    · have hlast : part ++ [c] = u ++ [c, c] ++ v ++ [b] := by simpa using hcut
      exact absurd ⟨u, v, (List.append_inj_left' hlast rfl).symm⟩ hpair

theorem pairAtEnd_of_notMem {c : Char} {part : List Char} (h : c ∉ part) : PairAtEnd c part := by
  rw [pairAtEnd_iff]
  refine ⟨fun hpair => h (hpair.subset List.mem_cons_self), fun hend => h ?_⟩
  exact hend.subset List.mem_cons_self

/-- text without the character can be added at the end -/
theorem PairAtEnd.append {c : Char} {part more : List Char} (h : PairAtEnd c part) (hne : more ≠ [])
    (hmore : c ∉ more) : PairAtEnd c (part ++ more) := by
  induction part with
  | nil => exact pairAtEnd_of_notMem hmore
  | cons a part ih =>
    obtain ⟨hpart, hnext⟩ := pairAtEnd_cons.1 h
    rw [List.cons_append, pairAtEnd_cons]
    refine ⟨ih hpart, ?_⟩
    rintro ⟨ha, rest, hrest⟩
    cases part with
    | nil =>
      obtain ⟨b, more, rfl⟩ := List.exists_cons_of_ne_nil hne
      exact hmore ((List.cons.inj hrest).1 ▸ List.mem_cons_self)
    | cons b part => exact hnext ⟨ha, part ++ [c, c], by rw [← (List.cons.inj hrest).1]; rfl⟩

/-- what stands first does not depend on what follows the pair -/
theorem starts_append_pair {c b : Char} {part rest after : List Char}
    (h : part ++ c :: c :: after = b :: rest) : ∃ rest', part ++ [c, c] = b :: rest' := by
  cases part with
  | nil => exact ⟨[c], by rw [← (List.cons.inj h).1]; rfl⟩
  | cons a part => exact ⟨part ++ [c, c], by rw [← (List.cons.inj h).1]; rfl⟩

theorem cutPair?_append {c : Char} {before : List Char} (h : PairAtEnd c before)
    (after : List Char) : cutPair? c (before ++ c :: c :: after) = some (before, after) := by
  induction before with
  | nil => simp [cutPair?]
  | cons a before ih =>
    obtain ⟨hbefore, hne⟩ := pairAtEnd_cons.1 h
    have ih := ih hbefore
    rw [List.cons_append]
    cases hcs : before ++ c :: c :: after with
    | nil => simp at hcs
    | cons b rest =>
      obtain ⟨rest', hrest'⟩ := starts_append_pair hcs
      have hab : ¬ (a = c ∧ b = c) := by
        rintro ⟨ha, rfl⟩
        exact hne ⟨ha, rest', hrest'⟩
      rw [hcs] at ih
      rw [cutPair?, if_neg hab, ih, Option.map_some]

/-- a cut is a part that shows the pair only behind it, the pair, and the rest -/
theorem cutPair?_eq_some {c : Char} {cs before after : List Char} :
    cutPair? c cs = some (before, after) ↔
      cs = before ++ c :: c :: after ∧ PairAtEnd c before := by
  constructor
  · intro h
    induction cs generalizing before with
    | nil => simp [cutPair?] at h
    | cons a cs ih =>
      cases cs with
      | nil => simp [cutPair?] at h
      | cons b rest =>
        by_cases hab : a = c ∧ b = c
        · rw [cutPair?, if_pos hab] at h
          obtain ⟨rfl, rfl⟩ := Prod.mk.inj (Option.some.inj h)
          rw [hab.1, hab.2]
          exact ⟨rfl, pairAtEnd_nil c⟩
        · rw [cutPair?, if_neg hab] at h
          obtain ⟨⟨u, v⟩, hu, he⟩ := Option.map_eq_some_iff.1 h
          obtain ⟨rfl, rfl⟩ := Prod.mk.inj he
          obtain ⟨hcs, hpair⟩ := ih hu
          refine ⟨by rw [hcs, List.cons_append], pairAtEnd_cons.2 ⟨hpair, ?_⟩⟩
          rintro ⟨ha, rest', hrest'⟩
          obtain ⟨rest'', hrest''⟩ := starts_append_pair hcs.symm
          rw [hrest'] at hrest''
          exact hab ⟨ha, (List.cons.inj hrest'').1.symm⟩
  · rintro ⟨rfl, h⟩
    exact cutPair?_append h after

/-- a text is left whole exactly where the pair does not occur in it -/
theorem cutPair?_eq_none {c : Char} {cs : List Char} :
    cutPair? c cs = none ↔ ¬ [c, c] <:+: cs := by
  constructor
  · rintro h ⟨u, v, rfl⟩
    induction u with
    | nil => simp [cutPair?] at h
    | cons a u ih =>
      cases hcs : u ++ [c, c] ++ v with
      | nil => simp at hcs
      | cons b rest =>
        rw [List.cons_append, List.cons_append, hcs] at h
        rw [hcs] at ih
        by_cases hab : a = c ∧ b = c
        · rw [cutPair?, if_pos hab] at h
          exact Option.some_ne_none _ h
        · rw [cutPair?, if_neg hab] at h
          exact ih (Option.map_eq_none_iff.1 h)
  · intro h
    cases hcut : cutPair? c cs with
    | none => rfl
    | some cut =>
      obtain ⟨before, after⟩ := cut
      obtain ⟨hcs, _⟩ := cutPair?_eq_some.1 hcut
      exact absurd ⟨before, after, by rw [hcs, List.append_assoc]; rfl⟩ h

end Telemetry.Text
