/-!
Powers of two and of ten, and the bounds of integers of 32 and 64 bits with a sign.
-/

namespace JobDispatch

/-- The power of two with the given exponent. -/
def twoTo (exponent : Nat) : Nat := Nat.pow 2 exponent

/-- The power of ten with the given exponent. -/
def tenTo (exponent : Nat) : Nat := Nat.pow 10 exponent

/-- Integers of 32 bits with a sign are at least minus this number and below it. -/
abbrev int32Bound : Int := 2147483648

/-- Integers of 64 bits with a sign are at least minus this number and below it. -/
abbrev int64Bound : Int := 9223372036854775808

end JobDispatch
