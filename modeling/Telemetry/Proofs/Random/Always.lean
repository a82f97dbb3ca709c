import Mathlib.Data.List.Forall2
import Telemetry.Random.Attribute

/-!
# What choices always answer

* `Always P m`   every answer of a computation with choices has the property `P`;
* `always_choose`, `always_within`  a chosen value is listed, and a chosen number is between its
                 bounds;
* `always_mapM`  one answer per entry of a list, in order;
* `Answers P m`, `Lost m`  a computation that can be cut off never is, and its answer has the
                 property `P`; or it always is;
* `answers_mapM`, `lost_mapM`  one answer per entry where every entry has one, and none where one
                 entry is cut off.
-/

namespace Telemetry.Random

section
variable {α β : Type} {P Q : α → Prop} {R : β → Prop} {m : Choice α}

/-- whatever the counter is, the answer has the property -/
def Always (P : α → Prop) (m : Choice α) : Prop := ∀ s, P (m.run s).1

theorem always_pure {a : α} (h : P a) : Always P (pure a) := fun _ => h

theorem Always.bind (hm : Always P m) {k : α → Choice β} (hk : ∀ a, P a → Always R (k a)) :
    Always R (m >>= k) := by
  intro s
  show R ((k (m.run s).1).run (m.run s).2).1
  exact hk _ (hm s) _

theorem Always.map (hm : Always P m) {f : α → β} (hf : ∀ a, P a → R (f a)) :
    Always R (f <$> m) := fun s => hf _ (hm s)

theorem Always.imp (hm : Always P m) (h : ∀ a, P a → Q a) : Always Q m := fun s => h _ (hm s)

theorem always_mapM {S : α → β → Prop} {f : α → Choice β} {xs : List α}
    (h : ∀ x ∈ xs, Always (S x) (f x)) : Always (List.Forall₂ S xs) (xs.mapM f) := by
  induction xs with
  | nil => exact always_pure .nil
  | cons x xs ih =>
    rw [List.mapM_cons]
    refine (h x List.mem_cons_self).bind fun y hy => ?_
    refine (ih fun x' hx' => h x' (List.mem_cons_of_mem x hx')).bind fun ys hys => ?_
    exact always_pure (.cons hy hys)

end

/-! ## computations that can be cut off -/

section
variable {α β : Type} {P : α → Prop} {R : β → Prop} {m : OptionT Choice α}

/-- whatever the counter is, there is an answer, and it has the property -/
def Answers (P : α → Prop) (m : OptionT Choice α) : Prop :=
  Always (fun answer => ∃ a, answer = some a ∧ P a) m.run

/-- whatever the counter is, there is no answer -/
def Lost (m : OptionT Choice α) : Prop := Always (· = none) m.run

theorem answers_pure {a : α} (h : P a) : Answers P (pure a) := always_pure ⟨a, rfl, h⟩

theorem answers_lift {m : Choice α} (h : Always P m) : Answers P (OptionT.lift m) :=
  h.map fun a ha => ⟨a, rfl, ha⟩

theorem bind_pure_run (m : OptionT Choice α) (f : α → β) (s : Attributes) :
    ((m >>= fun a => pure (f a)).run.run s).1 = (m.run.run s).1.map f := by
  rw [OptionT.run_bind, Option.elimM, StateT.run_bind]
  rcases m.run.run s with ⟨_ | a, s'⟩
  · rfl
  · rfl

theorem lost_failure : Lost (failure : OptionT Choice α) := always_pure rfl

theorem Answers.bind (hm : Answers P m) {k : α → OptionT Choice β}
    (hk : ∀ a, P a → Answers R (k a)) : Answers R (m >>= k) := by
  rw [Answers, OptionT.run_bind]
  refine Always.bind hm ?_
  rintro _ ⟨a, rfl, ha⟩
  exact hk a ha

theorem Answers.bind_lost (hm : Answers P m) {k : α → OptionT Choice β}
    (hk : ∀ a, P a → Lost (k a)) : Lost (m >>= k) := by
  rw [Lost, OptionT.run_bind]
  refine Always.bind hm ?_
  rintro _ ⟨a, rfl, ha⟩
  exact hk a ha

theorem Lost.bind (hm : Lost m) (k : α → OptionT Choice β) : Lost (m >>= k) := by
  rw [Lost, OptionT.run_bind]
  refine Always.bind hm ?_
  rintro _ rfl
  exact always_pure rfl

theorem answers_mapM {S : α → β → Prop} {f : α → OptionT Choice β} {xs : List α}
    (h : ∀ x ∈ xs, Answers (S x) (f x)) : Answers (List.Forall₂ S xs) (xs.mapM f) := by
  induction xs with
  | nil => exact answers_pure .nil
  | cons x xs ih =>
    rw [List.mapM_cons]
    refine (h x List.mem_cons_self).bind fun y hy => ?_
    refine (ih fun x' hx' => h x' (List.mem_cons_of_mem x hx')).bind fun ys hys => ?_
    exact answers_pure (.cons hy hys)

/-- whether or not an entry has an answer must not depend on the counter -/
theorem lost_mapM {f : α → OptionT Choice β} {xs : List α}
    (hall : ∀ y ∈ xs, Answers (fun _ => True) (f y) ∨ Lost (f y)) {x : α} (hx : x ∈ xs)
    (hlost : Lost (f x)) : Lost (xs.mapM f) := by
  induction xs with
  | nil => exact absurd hx List.not_mem_nil
  | cons y xs ih =>
    rw [List.mapM_cons]
    rcases hall y List.mem_cons_self with hy | hy
    · have hrest : Lost (xs.mapM f) := by
        refine ih (fun z hz => hall z (List.mem_cons_of_mem y hz)) ?_
        refine (List.mem_cons.1 hx).resolve_left ?_
        rintro rfl
        obtain ⟨a, ha, -⟩ := hy ⟨0⟩
        exact nomatch ha.symm.trans (hlost ⟨0⟩)
      exact hy.bind_lost fun _ _ => hrest.bind _
    · exact hy.bind _

end

/-- an entry at an index that is taken around the list -/
theorem getD_mod_mem {α : Type} (x : α) (xs : List α) (n : Nat) :
    ((x :: xs)[n % (xs.length + 1)]?).getD x ∈ x :: xs := by
  have hlt : n % (xs.length + 1) < (x :: xs).length := Nat.mod_lt _ (Nat.succ_pos _)
  rw [List.getElem?_eq_getElem hlt]
  exact List.getElem_mem hlt

theorem always_choose {α : Type} (x : α) (xs : List α) : Always (· ∈ x :: xs) (choose x xs) := by
  intro s
  rw [choose_run]
  exact getD_mod_mem x xs _

theorem add_mod_le {lo hi : Nat} (h : lo ≤ hi) (n : Nat) :
    lo ≤ lo + n % (hi - lo + 1) ∧ lo + n % (hi - lo + 1) ≤ hi := by
  have hlt : n % (hi - lo + 1) < hi - lo + 1 := Nat.mod_lt _ (Nat.succ_pos _)
  omega

theorem always_within {lo hi : Nat} (h : lo ≤ hi) :
    Always (fun n => lo ≤ n ∧ n ≤ hi) (within lo hi) := by
  intro s
  rw [within_run]
  exact add_mod_le h _

end Telemetry.Random
