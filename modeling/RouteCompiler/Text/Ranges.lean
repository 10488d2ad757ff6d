/-
**Sets of characters given by ranges.**

A character class of the Unicode standard is a short list of closed ranges of code points.

* `inRanges ranges c`: the code point of `c` lies in one of the ranges.
-/

namespace RouteCompiler.Text

/-- Whether the code point of `c` lies in one of the closed ranges. -/
def inRanges (ranges : List (Nat × Nat)) (c : Char) : Bool :=
  ranges.any fun range => decide (range.1 ≤ c.toNat) && decide (c.toNat ≤ range.2)

end RouteCompiler.Text
