/-!
# Ranges of code points

A property of characters is given by data as the list of the closed ranges of code points that have
it. This module says when a character lies in such a list.
-/

namespace FighterCheck.Text

/-- A closed range of code points. -/
structure CodeRange where
  /-- the least code point of the range -/
  first : Nat
  /-- the greatest code point of the range -/
  last : Nat
  deriving Repr, DecidableEq

/-- The code point `n` lies in the range. -/
def CodeRange.contains (r : CodeRange) (n : Nat) : Bool :=
  r.first ≤ n && n ≤ r.last

/-- The character `c` lies in one of the ranges. -/
def inRanges (rs : List CodeRange) (c : Char) : Bool :=
  rs.any (·.contains c.toNat)

theorem CodeRange.contains_iff {r : CodeRange} {n : Nat} :
    r.contains n = true ↔ r.first ≤ n ∧ n ≤ r.last := by
  simp [CodeRange.contains]

theorem inRanges_iff {rs : List CodeRange} {c : Char} :
    inRanges rs c = true ↔ ∃ r ∈ rs, r.first ≤ c.toNat ∧ c.toNat ≤ r.last := by
  simp [inRanges, CodeRange.contains_iff]

end FighterCheck.Text
