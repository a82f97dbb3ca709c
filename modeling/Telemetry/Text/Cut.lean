/-!
# Cutting text

* `cutAt? c cs`    the text before and after the first character `c`;
* `cutPair? c cs`  the text before and after the first two characters `c` in a row.

`cutAt?_eq_some` says that a text is cut exactly where it is a part without `c`, then `c`, then any
rest; so the cut is unique.  What follows a cut is shorter than the text.
-/

namespace Telemetry.Text

/-- the text before the first character `c`, and the text after it -/
def cutAt? (c : Char) : List Char → Option (List Char × List Char)
  | a :: rest =>
    if a = c then some ([], rest)
    else (cutAt? c rest).map fun (before, after) => (a :: before, after)
  | [] => none

/-- the text before the first two characters `c` in a row, and the text after them -/
def cutPair? (c : Char) : List Char → Option (List Char × List Char)
  | a :: b :: rest =>
    if a = c ∧ b = c then some ([], rest)
    else (cutPair? c (b :: rest)).map fun (before, after) => (a :: before, after)
  | _ => none

/-! ## laws -/

theorem cutAt?_append {c : Char} {before : List Char} (h : c ∉ before) (after : List Char) :
    cutAt? c (before ++ c :: after) = some (before, after) := by
  induction before with
  | nil => simp [cutAt?]
  | cons a before ih =>
    have ha : a ≠ c := fun e => h (by simp [e])
    have hb : c ∉ before := fun hc => h (by simp [hc])
    simp [cutAt?, ha, ih hb]

/-- a cut is a part without the character, the character, and the rest -/
theorem cutAt?_eq_some {c : Char} {cs before after : List Char} :
    cutAt? c cs = some (before, after) ↔ cs = before ++ c :: after ∧ c ∉ before := by
  constructor
  · intro h
    induction cs generalizing before with
    | nil => simp [cutAt?] at h
    | cons a rest ih =>
      by_cases ha : a = c
      · obtain ⟨rfl, rfl⟩ := by simpa [cutAt?, ha] using h
        simp [ha]
      · simp only [cutAt?, if_neg ha] at h
        obtain ⟨⟨u, v⟩, hu, he⟩ := Option.map_eq_some_iff.1 h
        obtain ⟨rfl, rfl⟩ := by simpa using he
        obtain ⟨hcs, hc⟩ := ih hu
        exact ⟨by rw [hcs, List.cons_append], by simpa [hc] using fun e : c = a => ha e.symm⟩
  · rintro ⟨rfl, h⟩
    exact cutAt?_append h after

/-- a text that has no such character is not cut -/
theorem cutAt?_eq_none {c : Char} {cs : List Char} : cutAt? c cs = none ↔ c ∉ cs := by
  induction cs with
  | nil => simp [cutAt?]
  | cons a rest ih =>
    by_cases ha : a = c
    · simp [cutAt?, ha]
    · have hc : c ≠ a := fun e => ha e.symm
      simp [cutAt?, ha, hc, ih]

theorem cutPair?_length {c : Char} {cs before after : List Char}
    (h : cutPair? c cs = some (before, after)) : after.length < cs.length := by
  induction cs generalizing before after with
  | nil => simp [cutPair?] at h
  | cons a rest ih =>
    cases rest with
    | nil => simp [cutPair?] at h
    | cons b rest =>
      simp only [cutPair?] at h
      split at h
      · obtain ⟨_, rfl⟩ := by simpa using h
        simp only [List.length_cons]
        omega
      · obtain ⟨⟨u, v⟩, hu, he⟩ := Option.map_eq_some_iff.1 h
        obtain ⟨_, rfl⟩ := by simpa using he
        exact Nat.lt_succ_of_lt (ih hu)

end Telemetry.Text
