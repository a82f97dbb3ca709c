import Mathlib.Data.List.Basic

/-!
# Separators that are not escaped

A character is escaped where a backslash stands directly before it.  All the functions below go
through a text with one bit, which says whether the character before was a backslash.

* `trails e cs`        whether a backslash stands directly before what follows the text `cs`;
* `countFree c e cs`   how many characters `c` of the text are not escaped;
* `splitFree c e cs`   the parts of the text between these;
* `cutFree? c e cs`    the text before the first of these and the text after it;
* `Part c cs`          a text that has none, and that leaves the one after it as it is.

`splitFree_join` and `cutFree?_append` say that parts come back as they were written.
-/

namespace Telemetry.Text

/-- whether a backslash stands directly before what follows a text; `e` says so for the text -/
def trails (e : Bool) (cs : List Char) : Bool := (cs.getLast?.map (· == '\\')).getD e

/-- the number of characters `c` without a backslash directly before them -/
def countFree (c : Char) : Bool → List Char → Nat
  | _, [] => 0
  | e, a :: rest => (if a = c ∧ e = false then 1 else 0) + countFree c (a == '\\') rest

/-- the parts of a text between the characters `c` without a backslash directly before them -/
def splitFree (c : Char) : Bool → List Char → List (List Char)
  | _, [] => [[]]
  | e, a :: rest =>
    if a = c ∧ e = false then [] :: splitFree c (a == '\\') rest
    else (splitFree c (a == '\\') rest).modifyHead (a :: ·)

/-- the text before the first character `c` without a backslash directly before it, and the text
after it -/
def cutFree? (c : Char) : Bool → List Char → Option (List Char × List Char)
  | _, [] => none
  | e, a :: rest =>
    if a = c ∧ e = false then some ([], rest)
    else (cutFree? c (a == '\\') rest).map fun (before, after) => (a :: before, after)

/-- a text without a free character `c`, behind which such a character is free -/
structure Part (c : Char) (cs : List Char) : Prop where
  count_eq : countFree c false cs = 0
  trails_eq : trails false cs = false

/-! ## equations -/

section
variable (c : Char) (e : Bool)

@[simp] theorem trails_nil : trails e [] = e := rfl

theorem trails_cons (a : Char) (cs : List Char) : trails e (a :: cs) = trails (a == '\\') cs := by
  cases cs with
  | nil => rfl
  | cons b cs => rw [trails, List.getLast?_cons_cons, trails, List.getLast?_cons]; rfl

theorem trails_append (u v : List Char) : trails e (u ++ v) = trails (trails e u) v := by
  induction u generalizing e with
  | nil => rfl
  | cons a u ih => rw [List.cons_append, trails_cons, ih, trails_cons]

@[simp] theorem countFree_nil : countFree c e [] = 0 := rfl

theorem countFree_cons (a : Char) (cs : List Char) :
    countFree c e (a :: cs) = (if a = c ∧ e = false then 1 else 0) + countFree c (a == '\\') cs :=
  rfl

theorem countFree_append (u v : List Char) :
    countFree c e (u ++ v) = countFree c e u + countFree c (trails e u) v := by
  induction u generalizing e with
  | nil => rw [List.nil_append, countFree_nil, trails_nil, Nat.zero_add]
  | cons a u ih =>
    rw [List.cons_append, countFree_cons, ih, countFree_cons, trails_cons, Nat.add_assoc]

end

theorem countFree_of_not_mem {c : Char} {e : Bool} {cs : List Char} (h : c ∉ cs) :
    countFree c e cs = 0 := by
  induction cs generalizing e with
  | nil => rfl
  | cons a cs ih =>
    have ha : ¬ (a = c ∧ e = false) := fun hfree => h (hfree.1 ▸ List.mem_cons_self)
    rw [countFree_cons, if_neg ha, ih fun hmem => h (List.mem_cons_of_mem a hmem)]

theorem trails_of_not_mem {cs : List Char} (h : '\\' ∉ cs) : trails false cs = false := by
  induction cs with
  | nil => rfl
  | cons a cs ih =>
    have ha : (a == '\\') = false := beq_eq_false_iff_ne.2 fun e => h (e ▸ List.mem_cons_self)
    rw [trails_cons, ha, ih fun hmem => h (List.mem_cons_of_mem a hmem)]

/-! ## parts -/

section
variable {c : Char} {e : Bool} {u v : List Char}

theorem Part.of_not_mem (h : c ∉ u) (hslash : '\\' ∉ u) : Part c u :=
  ⟨countFree_of_not_mem h, trails_of_not_mem hslash⟩

theorem Part.append (hu : Part c u) (hv : Part c v) : Part c (u ++ v) where
  count_eq := by rw [countFree_append, hu.count_eq, hu.trails_eq, hv.count_eq]
  trails_eq := by rw [trails_append, hu.trails_eq, hv.trails_eq]

theorem Part.cons {a : Char} (ha : a ≠ c) (hslash : a ≠ '\\') (hu : Part c u) : Part c (a :: u) where
  count_eq := by
    rw [countFree_cons, if_neg fun h => ha h.1, beq_eq_false_iff_ne.2 hslash, hu.count_eq]
  trails_eq := by rw [trails_cons, beq_eq_false_iff_ne.2 hslash, hu.trails_eq]

theorem Part.flatMap {α : Type} {f : α → List Char} {xs : List α} (h : ∀ x ∈ xs, Part c (f x)) :
    Part c (xs.flatMap f) := by
  induction xs with
  | nil => exact ⟨rfl, rfl⟩
  | cons x xs ih =>
    obtain ⟨hx, hxs⟩ := List.forall_mem_cons.1 h
    rw [List.flatMap_cons]
    exact hx.append (ih hxs)

/-- the first character of a text that has no free one is not free -/
theorem not_free_of_count {a : Char} (h : countFree c e (a :: u) = 0) :
    ¬ (a = c ∧ e = false) ∧ countFree c (a == '\\') u = 0 := by
  rw [countFree_cons, Nat.add_eq_zero_iff] at h
  refine ⟨fun hfree => ?_, h.2⟩
  rw [if_pos hfree] at h
  exact Nat.one_ne_zero h.1

theorem splitFree_of_count (h : countFree c e u = 0) : splitFree c e u = [u] := by
  induction u generalizing e with
  | nil => rfl
  | cons a u ih =>
    obtain ⟨ha, hu⟩ := not_free_of_count h
    rw [splitFree, if_neg ha, ih hu, List.modifyHead_cons]

theorem splitFree_append (h : countFree c e u = 0) (ht : trails e u = false) (v : List Char) :
    splitFree c e (u ++ c :: v) = u :: splitFree c (c == '\\') v := by
  induction u generalizing e with
  | nil => rw [List.nil_append, splitFree, if_pos ⟨rfl, ht⟩]
  | cons a u ih =>
    obtain ⟨ha, hu⟩ := not_free_of_count h
    rw [trails_cons] at ht
    rw [List.cons_append, splitFree, if_neg ha, ih hu ht, List.modifyHead_cons]

theorem cutFree?_of_count (h : countFree c e u = 0) (ht : trails e u = false) (v : List Char) :
    cutFree? c e (u ++ c :: v) = some (u, v) := by
  induction u generalizing e with
  | nil => rw [List.nil_append, cutFree?, if_pos ⟨rfl, ht⟩]
  | cons a u ih =>
    obtain ⟨ha, hu⟩ := not_free_of_count h
    rw [trails_cons] at ht
    rw [List.cons_append, cutFree?, if_neg ha, ih hu ht, Option.map_some]

/-- a text is cut behind its first part, whatever follows -/
theorem cutFree?_append (h : Part c u) (v : List Char) :
    cutFree? c false (u ++ c :: v) = some (u, v) :=
  cutFree?_of_count h.count_eq h.trails_eq v

/-- parts that are joined by a separator come back as they were -/
theorem splitFree_join (hc : c ≠ '\\') {parts : List (List Char)} (hu : Part c u)
    (h : ∀ part ∈ parts, Part c part) :
    splitFree c false (u ++ parts.flatMap (c :: ·)) = u :: parts := by
  induction parts generalizing u with
  | nil => rw [List.flatMap_nil, List.append_nil, splitFree_of_count hu.count_eq]
  | cons part parts ih =>
    obtain ⟨hpart, hparts⟩ := List.forall_mem_cons.1 h
    rw [List.flatMap_cons, List.cons_append, splitFree_append hu.count_eq hu.trails_eq,
      beq_eq_false_iff_ne.2 hc, ih hpart hparts]

example : splitFree ',' false ['a', '\\', ',', 'b', ',', 'c'] = [['a', '\\', ',', 'b'], ['c']] := by
  decide

end

end Telemetry.Text
