/-!
# Powers

Powers of the two bases between which numbers are converted.
-/

namespace SyntheticTable

/-- The power of two with an exponent. -/
abbrev twoTo (exponent : Nat) : Nat := Nat.pow 2 exponent

/-- The power of ten with an exponent. -/
abbrev tenTo (exponent : Nat) : Nat := Nat.pow 10 exponent

end SyntheticTable
