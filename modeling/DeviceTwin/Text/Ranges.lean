/-
Sets of characters given as ranges of code points, the form in which the
Unicode character database lists a property.
-/
namespace DeviceTwin

/-- Ranges of code points, each with its first and its last member. -/
abbrev CodeRanges := List (Nat × Nat)

namespace CodeRanges

/-- A character belongs to the set when one range spans its code point. -/
def contains (ranges : CodeRanges) (c : Char) : Bool :=
  ranges.any fun range => range.1 ≤ c.toNat && c.toNat ≤ range.2

theorem contains_iff {ranges : CodeRanges} {c : Char} :
    ranges.contains c = true ↔
      ∃ range ∈ ranges, range.1 ≤ c.toNat ∧ c.toNat ≤ range.2 := by
  simp [contains]

end CodeRanges

end DeviceTwin
