/-!
# Character classes

A character class is given by its code points, as closed ranges in rising order.
-/

namespace PrivilegeGraph.Text

/-- Whether a character lies in one of the ranges. -/
def inRanges
    (ranges : List (Nat × Nat))
    (c : Char) :
    Bool :=
  ranges.any fun range => range.1 ≤ c.toNat && c.toNat ≤ range.2

end PrivilegeGraph.Text
