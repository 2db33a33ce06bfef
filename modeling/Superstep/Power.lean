/-! # Powers of two and of ten

The bounds of words of some bits, and the scales of binary and decimal numbers.
-/

namespace Superstep

/-- Two to the power of `n`, the number of values that `n` bits have. -/
abbrev twoTo (n : Nat) : Nat :=
  Nat.pow 2 n

/-- Ten to the power of `n`. -/
abbrev tenTo (n : Nat) : Nat :=
  Nat.pow 10 n

end Superstep
