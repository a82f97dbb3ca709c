/-!
# Blank characters

The characters with the Unicode property White_Space.

* `isBlank c`      whether `c` is one of them;
* `dropBlanks cs`  the text after the blanks at its front.
-/

namespace Telemetry.Text

/-- the code points with the property White_Space, as closed ranges -/
def blankRanges : List (Nat × Nat) :=
  [(0x09, 0x0D), (0x20, 0x20), (0x85, 0x85), (0xA0, 0xA0), (0x1680, 0x1680), (0x2000, 0x200A),
    (0x2028, 0x2029), (0x202F, 0x202F), (0x205F, 0x205F), (0x3000, 0x3000)]

def isBlank (c : Char) : Bool := blankRanges.any fun (lo, hi) => lo ≤ c.toNat && c.toNat ≤ hi

def dropBlanks (cs : List Char) : List Char := cs.dropWhile isBlank

/-- every blank of the core class is one of the property -/
theorem isBlank_of_isWhitespace {c : Char} (h : c.isWhitespace = true) : isBlank c = true := by
  simp only [Char.isWhitespace, Bool.or_eq_true, decide_eq_true_eq] at h
  obtain (((h | h) | h) | h) := h <;> subst h <;> decide

end Telemetry.Text
