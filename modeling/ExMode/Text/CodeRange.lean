/-!
# ExMode.Text.CodeRange

Classes of characters given by a standard are tables of code point intervals.
A table is a list of closed intervals; membership is the obvious search, so
that facts about single characters are settled by evaluation.
-/

namespace ExMode

/-- Closed intervals of code points, in increasing order. -/
abbrev CodeRanges := List (Nat × Nat)

/-- Whether some interval of the table holds the code point. -/
def CodeRanges.has (rs : CodeRanges) (n : Nat) : Bool :=
  rs.any fun r => decide (r.1 ≤ n) && decide (n ≤ r.2)

end ExMode
