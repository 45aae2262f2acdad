/-!
# Ranges of characters

A set of characters is kept as closed ranges of code points. The tables of the library list them in
increasing order; a range may run across the surrogates, which are no characters.
-/

namespace RebateRelay.Text

/-- A set of characters as closed ranges of code points. -/
abbrev Ranges := List (Nat × Nat)

/-- One of the ranges holds the character. -/
def Ranges.holds (ranges : Ranges) (c : Char) : Bool :=
  ranges.any fun range => range.1 ≤ c.toNat && c.toNat ≤ range.2

/-- A character is held just when its code point lies within a range. -/
theorem Ranges.holds_iff {ranges : Ranges} {c : Char} :
    ranges.holds c = true ↔ ∃ range ∈ ranges, range.1 ≤ c.toNat ∧ c.toNat ≤ range.2 := by
  simp [holds]

end RebateRelay.Text
