/-!
# Ranges of code points

A character class of a standard is a list of inclusive ranges of code points.

* `Ranges.contains`: whether a character lies in one of the ranges.
* `Ranges.contains_iff`: the same as a proposition.
-/

namespace CompilerHints.Text

/-- Inclusive ranges of code points, each given by its first and its last one. -/
abbrev Ranges := List (Nat × Nat)

/-- Whether a character lies in one of the ranges. -/
def Ranges.contains (ranges : Ranges) (c : Char) : Bool :=
  ranges.any fun r => r.1 ≤ c.toNat && c.toNat ≤ r.2

theorem Ranges.contains_iff {ranges : Ranges} {c : Char} :
    ranges.contains c = true ↔ ∃ r ∈ ranges, r.1 ≤ c.toNat ∧ c.toNat ≤ r.2 := by
  simp [Ranges.contains]

end CompilerHints.Text
