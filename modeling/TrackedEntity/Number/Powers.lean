/-!
# Powers of two and of ten

The two bases in which numbers are read and written: two for the values, ten for their texts.
-/

namespace TrackedEntity

/-- A power of two. -/
def twoPow (n : Nat) : Nat := Nat.pow 2 n

/-- A power of ten. -/
def tenPow (n : Nat) : Nat := Nat.pow 10 n

end TrackedEntity
