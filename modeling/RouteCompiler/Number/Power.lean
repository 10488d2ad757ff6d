/-
**Powers of two and ten.**

* `twoTo`, `tenTo`: the powers of the two bases in which numbers are kept and written;
* `twoTo_pos`: no power of two is zero.
-/

namespace RouteCompiler

/-- A power of two. -/
def twoTo (exponent : Nat) : Nat :=
  Nat.pow 2 exponent

/-- A power of ten. -/
def tenTo (exponent : Nat) : Nat :=
  Nat.pow 10 exponent

theorem twoTo_pos (exponent : Nat) : 0 < twoTo exponent :=
  Nat.pow_pos (by decide)

end RouteCompiler
