/-!
# Tag overrides

A table of forced tag values: for a measurement and a tag it may hold the value that every row of
that measurement carries.

* `Overrides.set o m t v`    forces a value; a later one for the same tag wins;
* `Overrides.get? o m t`     the forced value;
* `Overrides.getD o m t d`   the forced value, or a default.

A measurement stays in the table even if no tag of it is forced.
-/

namespace Telemetry

/-- forced tag values, by measurement and tag -/
structure Overrides where
  entries : List (String × List (String × String)) := []
deriving DecidableEq, Repr

namespace Overrides

/-- a list of pairs with the value of one key replaced, or added at the end -/
def put {α : Type} (key : String) (value : α) : List (String × α) → List (String × α)
  | [] => [(key, value)]
  | (k, v) :: rest => if k = key then (key, value) :: rest else (k, v) :: put key value rest

/-- the tags of a measurement -/
def tags (o : Overrides) (measurement : String) : List (String × String) :=
  (o.entries.lookup measurement).getD []

def set (o : Overrides) (measurement tag value : String) : Overrides :=
  ⟨put measurement (put tag value (o.tags measurement)) o.entries⟩

def get? (o : Overrides) (measurement tag : String) : Option String :=
  (o.tags measurement).lookup tag

/-- the forced value of a tag, or a default -/
def getD (o : Overrides) (measurement tag default : String) : String :=
  (o.get? measurement tag).getD default

/-- whether the table names no measurement -/
def isEmpty (o : Overrides) : Bool := o.entries.isEmpty

/-! ## equations -/

theorem lookup_put_self {α : Type} (key : String) (value : α) (xs : List (String × α)) :
    (put key value xs).lookup key = some value := by
  induction xs with
  | nil => simp [put]
  | cons x xs ih =>
    obtain ⟨k, v⟩ := x
    by_cases h : k = key
    · simp [put, h]
    · have h' : (key == k) = false := by simpa using fun e : key = k => h e.symm
      simp [put, h, List.lookup_cons, h', ih]

theorem lookup_put_of_ne {α : Type} {key other : String} (hne : other ≠ key) (value : α)
    (xs : List (String × α)) : (put key value xs).lookup other = xs.lookup other := by
  have hb : (other == key) = false := by simpa using hne
  induction xs with
  | nil => simp [put, List.lookup_cons, hb]
  | cons x xs ih =>
    obtain ⟨k, v⟩ := x
    by_cases h : k = key
    · subst h; simp [put, List.lookup_cons, hb]
    · simp only [put, if_neg h, List.lookup_cons, ih]

theorem get?_set_self (o : Overrides) (m t v : String) : (o.set m t v).get? m t = some v := by
  simp [get?, tags, set, lookup_put_self]

theorem get?_set_of_ne (o : Overrides) {m t m' t' : String} (v : String)
    (h : m' ≠ m ∨ t' ≠ t) : (o.set m t v).get? m' t' = o.get? m' t' := by
  by_cases hm : m' = m
  · subst hm
    have ht : t' ≠ t := h.resolve_left (by simp)
    simp [get?, tags, set, lookup_put_self, lookup_put_of_ne ht]
  · simp [get?, tags, set, lookup_put_of_ne hm]

end Overrides

end Telemetry
