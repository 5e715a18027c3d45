/-!
# Positions counted from either end

A position in a sequence is an integer: `0` is the first element, `-1` the last. `fromEnds?`
turns it into an index, or `none` when it points outside on either side. Positions are signed words
of 64 bits; an integer that is none (`isWord`) is refused before a sequence is looked at.
-/

namespace TrackedEntity.Position

/-- Whether an integer fits into a signed word of 64 bits. -/
def isWord (n : Int) : Bool := -9223372036854775808 ≤ n && n < 9223372036854775808

/-- The index that a position denotes in a sequence of the given length. -/
def fromEnds? (length : Nat) (position : Int) : Option Nat :=
  if position < 0 then
    if 0 ≤ position + length then some (position + length).toNat else none
  else if position < length then some position.toNat else none

theorem fromEnds?_lt {length : Nat} {position : Int} {i : Nat}
    (h : fromEnds? length position = some i) : i < length := by
  unfold fromEnds? at h
  split at h <;> split at h <;> simp only [Option.some.injEq, reduceCtorEq] at h <;> omega

/-- A natural position inside the sequence denotes itself. -/
theorem fromEnds?_natCast {length i : Nat} (h : i < length) :
    fromEnds? length (i : Int) = some i := by
  unfold fromEnds?
  rw [if_neg (by omega), if_pos (by omega), Int.toNat_natCast]

end TrackedEntity.Position
