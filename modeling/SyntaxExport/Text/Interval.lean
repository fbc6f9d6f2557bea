/-!
# Sets of characters given by intervals of code points

The character classes of the Unicode standard are long unions of intervals. A class is kept as the
list of its intervals, smallest first, and membership looks at each of them.
-/

namespace SyntaxExport.Text

/-- The code point of `c` lies in one of the closed intervals. -/
def inIntervals (intervals : List (Nat × Nat)) (c : Char) : Bool :=
  intervals.any fun interval => interval.1 ≤ c.toNat && c.toNat ≤ interval.2

end SyntaxExport.Text
