import Telemetry.Point.LineProtocol
import Telemetry.Proofs.Decimal.Digits
import Telemetry.Proofs.Text.Separator

/-!
# Names and values in a line

What the two kinds of text in a row can contain.

* `escape`             leaves no special character free, and ends as the name does: so a backslash at
                       the end of a name escapes the separator behind it (`trails_escape`);
* `structural`         the characters that have a meaning of their own in a line;
* `FloatText`          what a reader needs of the text of a float, and `floatText_readable` that every
                       float has it;
* `mem_token`          no value has a structural character.
-/

namespace Telemetry

open Telemetry.Text

namespace LineProtocol

/-! ## names -/

section
variable (special : List Char)

@[simp] theorem escape_nil : escape special [] = [] := rfl

theorem escape_cons (a : Char) (cs : List Char) :
    escape special (a :: cs) = (if special.contains a then ['\\', a] else [a]) ++ escape special cs :=
  rfl

theorem trails_escape (e : Bool) (cs : List Char) : trails e (escape special cs) = trails e cs := by
  induction cs generalizing e with
  | nil => rfl
  | cons a cs ih =>
    rw [escape_cons, trails_cons, ← ih]
    split
    · rw [List.cons_append, trails_cons, List.singleton_append, trails_cons]
    · rw [List.singleton_append, trails_cons]

theorem mem_escape {c : Char} (hc : c ≠ '\\') {cs : List Char} : c ∈ escape special cs ↔ c ∈ cs := by
  induction cs with
  | nil => rfl
  | cons a cs ih =>
    rw [escape_cons, List.mem_append, ih, List.mem_cons]
    split
    · rw [List.mem_cons, List.mem_singleton, or_iff_right hc]
    · rw [List.mem_singleton]

end

theorem countFree_escape {special : List Char} {c : Char} (hmem : c ∈ special) (hc : c ≠ '\\')
    (e : Bool) (cs : List Char) : countFree c e (escape special cs) = 0 := by
  induction cs generalizing e with
  | nil => rfl
  | cons a cs ih =>
    rw [escape_cons]
    split
    · -- the backslash is not `c`, and the character behind it is not free
      rw [List.cons_append, countFree_cons, if_neg fun h => hc h.1.symm, List.singleton_append,
        countFree_cons, if_neg fun h => Bool.noConfusion h.2, ih]
    · rename_i ha
      have hne : a ≠ c := fun h => ha (List.contains_iff_mem.2 (h ▸ hmem))
      rw [List.singleton_append, countFree_cons, if_neg fun h => hne h.1, ih]

/-- a name that does not end in a backslash is a part between separators -/
theorem part_escape {special : List Char} {c : Char} (hmem : c ∈ special) (hc : c ≠ '\\')
    {cs : List Char} (h : trails false cs = false) : Part c (escape special cs) where
  count_eq := countFree_escape hmem hc false cs
  trails_eq := by rw [trails_escape, h]

theorem mem_keyEnds_of_mem_nameEnds : ∀ c ∈ nameEnds, c ∈ keyEnds :=
  List.forall_iff_forall_mem.1 (by decide)

/-! ## values -/

/-- the characters that have a meaning of their own in a line -/
def structural : List Char := [',', ' ', '=', '\\', '\n']

theorem not_structural_of_isDigit {c : Char} (h : c.isDigit = true) : c ∉ structural := by
  intro hmem
  have hnone : ∀ d ∈ structural, d.isDigit = false := List.forall_iff_forall_mem.1 (by decide)
  rw [hnone c hmem] at h
  exact Bool.noConfusion h

/-- the text of a float, as far as a reader relies on it -/
structure FloatText (cs : List Char) : Prop where
  ne_nil : cs ≠ []
  plain : ∀ c ∈ cs, c ∉ structural
  last_ne : cs.getLast? ≠ some 'i' ∧ cs.getLast? ≠ some 'u'
  ne_boolean : cs ≠ ['t', 'r', 'u', 'e'] ∧ cs ≠ ['f', 'a', 'l', 's', 'e']

/-- a character of a number that is written without an exponent -/
def NumberChar (c : Char) : Prop := c.isDigit = true ∨ c = '.' ∨ c = '-'

instance (c : Char) : Decidable (NumberChar c) :=
  inferInstanceAs (Decidable (c.isDigit = true ∨ c = '.' ∨ c = '-'))

/-- neither the structural characters nor the ends of other values occur in numbers -/
theorem not_numberChar : ∀ c ∈ ['i', 'u', 'e'] ++ structural, ¬ NumberChar c :=
  List.forall_iff_forall_mem.1 (by decide)

theorem floatText_of_numberChar {cs : List Char} (hne : cs ≠ []) (h : ∀ c ∈ cs, NumberChar c) :
    FloatText cs where
  ne_nil := hne
  plain := fun c hc hmem => not_numberChar c (List.mem_append_right _ hmem) (h c hc)
  last_ne := ⟨fun hlast => not_numberChar 'i' (by decide) (h 'i' (List.mem_of_getLast? hlast)),
    fun hlast => not_numberChar 'u' (by decide) (h 'u' (List.mem_of_getLast? hlast))⟩
  ne_boolean := ⟨fun htrue => not_numberChar 'e' (by decide) (h 'e' (by rw [htrue]; decide)),
    fun hfalse => not_numberChar 'e' (by decide) (h 'e' (by rw [hfalse]; decide))⟩

theorem numberChar_of_mem_positionalText {ds : List Char} {k : Int}
    (hds : ∀ c ∈ ds, c.isDigit = true) {c : Char} (h : c ∈ numbers.positionalText ds k) :
    NumberChar c := by
  have hzeros : ∀ n, ∀ d ∈ List.replicate n '0', NumberChar d := fun n d hd =>
    .inl (by rw [(List.mem_replicate.1 hd).2]; decide)
  unfold Decimal.Layout.positionalText at h
  split at h
  · rcases List.mem_cons.1 h with rfl | h
    · exact .inl (by decide)
    rcases List.mem_cons.1 h with rfl | h
    · exact .inr (.inl rfl)
    rcases List.mem_append.1 h with h | h
    · exact hzeros _ c h
    · exact .inl (hds c h)
  · simp only at h
    split at h
    · rw [List.append_assoc] at h
      rcases List.mem_append.1 h with h | h
      · exact .inl (hds c h)
      · exact hzeros _ c (by simpa [numbers] using h)
    · rcases List.mem_append.1 h with h | h
      · exact .inl (hds c (List.mem_of_mem_take h))
      rcases List.mem_cons.1 h with rfl | h
      · exact .inr (.inl rfl)
      · exact .inl (hds c (List.mem_of_mem_drop h))

theorem positionalText_ne_nil (l : Decimal.Layout) {ds : List Char} (hne : ds ≠ []) (k : Int) :
    l.positionalText ds k ≠ [] := by
  unfold Decimal.Layout.positionalText
  split
  · exact List.cons_ne_nil _ _
  · simp only
    split
    · simp [hne]
    · simp

theorem floatText_withSign (negative : Bool) {ds : List Char} (hne : ds ≠ [])
    (hds : ∀ c ∈ ds, c.isDigit = true) (k : Int) :
    FloatText (Decimal.withSign negative (numbers.positionalText ds k)) := by
  have hchars := fun c => @numberChar_of_mem_positionalText ds k hds c
  unfold Decimal.withSign
  split
  · refine floatText_of_numberChar (List.cons_ne_nil _ _) ?_
    exact List.forall_mem_cons.2 ⟨.inr (.inr rfl), hchars⟩
  · exact floatText_of_numberChar (positionalText_ne_nil _ hne k) hchars

/-- **The text of every float** can be read back. -/
theorem floatText_readable (x : Float) : FloatText (floatText x) := by
  unfold floatText Decimal.Layout.text
  cases Decimal.Shape.ofBits x.toBits with
  | nan => exact ⟨by decide, List.forall_iff_forall_mem.1 (by decide), by decide, by decide⟩
  | infinite negative =>
    cases negative <;>
      exact ⟨by decide, List.forall_iff_forall_mem.1 (by decide), by decide, by decide⟩
  | zero negative =>
    exact floatText_withSign negative (by decide) (List.forall_iff_forall_mem.1 (by decide)) 0
  | finite negative size =>
    exact floatText_withSign negative (Decimal.digits_ne_nil _) (fun c => Decimal.mem_digits) _

theorem mem_token {v : FieldValue} {c : Char} (h : c ∈ v.token) : c ∉ structural := by
  have hsigned : ∀ i, ∀ d ∈ Decimal.signed i, d ∉ structural := by
    intro i d hd hmem
    refine not_numberChar d (List.mem_append_right _ hmem) ?_
    exact (Decimal.mem_signed hd).imp_right .inr
  cases v with
  | float x => exact (floatText_readable x).plain c h
  | integer i =>
    rcases List.mem_append.1 h with h | h
    · exact hsigned _ c h
    · rw [List.mem_singleton.1 h]
      decide
  | unsigned u =>
    rcases List.mem_append.1 h with h | h
    · exact not_structural_of_isDigit (Decimal.mem_digits h)
    · rw [List.mem_singleton.1 h]
      decide
  | boolean b =>
    have hwords : ∀ d ∈ (FieldValue.boolean b).token, d ∉ structural := by
      cases b <;> exact List.forall_iff_forall_mem.1 (by decide)
    exact hwords c h

end LineProtocol

end Telemetry
