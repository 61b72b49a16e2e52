/-!
# Ranges of code points: how a property of characters is tabled

A character property that no rule computes is tabled as a list of closed ranges of code points, in ascending order. A
character has the property when its code point lies in one of the ranges (`CodeRanges.has_iff`).
-/

namespace Reckoner

/-- A property of characters as closed ranges of code points, written from the lowest to the highest. -/
abbrev CodeRanges := List (Nat × Nat)

namespace CodeRanges

/-- Whether a code point lies in one of the ranges. -/
def hasCode (rs : CodeRanges) (n : Nat) : Bool := rs.any fun r => decide (r.1 ≤ n) && decide (n ≤ r.2)

/-- Whether a character has the property. -/
def has (rs : CodeRanges) (c : Char) : Bool := rs.hasCode c.toNat

/-- A table has a character if one of its ranges does. -/
theorem has_iff {rs : CodeRanges} {c : Char} : rs.has c = true ↔ ∃ r ∈ rs, r.1 ≤ c.toNat ∧ c.toNat ≤ r.2 := by
  simp [has, hasCode]

end CodeRanges

end Reckoner
