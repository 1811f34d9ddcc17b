/-!
# Blank text

White space as Unicode means it (the property White_Space), which is wider than the white space of
ASCII: it holds the line separators, the no-break space and the ideographic space, but neither the
zero-width space nor the byte order mark.
-/

namespace ServiceWatch.Text

/-- Code points as closed ranges. -/
abbrev Ranges := List (Nat × Nat)

/-- Whether a character lies in one of the ranges. -/
def Ranges.holds (ranges : Ranges) (c : Char) : Bool :=
  ranges.any fun r => r.1 ≤ c.toNat && c.toNat ≤ r.2

/-- The characters with the property White_Space. -/
def blankRanges : Ranges :=
  [(0x9, 0xD), (0x20, 0x20), (0x85, 0x85), (0xA0, 0xA0), (0x1680, 0x1680), (0x2000, 0x200A),
   (0x2028, 0x2029), (0x202F, 0x202F), (0x205F, 0x205F), (0x3000, 0x3000)]

/-- A white space character. -/
def isBlank (c : Char) : Bool := blankRanges.holds c

/-- Whether nothing is left of a text once white space is cut off at both ends. -/
def isBlankText (s : String) : Bool := s.toList.all isBlank

/-- White space of ASCII is blank. -/
theorem isBlank_of_isWhitespace {c : Char} (h : c.isWhitespace) : isBlank c := by
  simp only [Char.isWhitespace, Bool.or_eq_true, decide_eq_true_eq] at h
  rcases h with ((rfl | rfl) | rfl) | rfl <;> decide

/-- A text without characters is blank. -/
@[simp]
theorem isBlankText_empty : isBlankText "" = true := rfl

end ServiceWatch.Text
