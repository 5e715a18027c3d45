import TrackedEntity.Number.Exact

/-!
# Binary floating point numbers of 64 bits

A `Binary64` is its bit pattern: one sign bit, eleven bits of exponent and fifty-two bits of
fraction. `exact` reads the pattern as a number: with exponent field `k > 0` the value is
`(2 ^ 52 + fraction) · 2 ^ (k - 1075)`, with `k = 0` it is `fraction · 2 ^ (-1074)`, and the
largest field holds the infinities and the patterns that are not numbers.
-/

namespace TrackedEntity

/-- A 64-bit floating point number, given by its bits. -/
structure Binary64 where
  bits : UInt64
deriving DecidableEq, Repr, Inhabited

namespace Binary64

/-- The sign bit. -/
def isNegative (x : Binary64) : Bool := twoPow 63 ≤ x.bits.toNat

/-- The eleven exponent bits. -/
def exponentField (x : Binary64) : Nat := x.bits.toNat / twoPow 52 % 2048

/-- The fifty-two fraction bits. -/
def fraction (x : Binary64) : Nat := x.bits.toNat % twoPow 52

/-- Whether the pattern is not a number. -/
def isNaN (x : Binary64) : Bool := x.exponentField == 2047 && x.fraction != 0

/-- Whether the pattern is an infinity of either sign. -/
def isInfinite (x : Binary64) : Bool := x.exponentField == 2047 && x.fraction == 0

/-- The integer `m` of a finite value `± m · 2 ^ q`. -/
def significand (x : Binary64) : Nat :=
  if x.exponentField = 0 then x.fraction else twoPow 52 + x.fraction

/-- The exponent `q` of a finite value `± m · 2 ^ q`. -/
def scale (x : Binary64) : Int :=
  if x.exponentField = 0 then -1074 else (x.exponentField : Int) - 1075

/-- The value as an exact number. -/
def exact (x : Binary64) : Exact :=
  if x.isNaN then .notANumber
  else if x.isInfinite then .infinite x.isNegative
  else .finite (if x.isNegative then -(x.significand : Int) else x.significand) x.scale

/-- Positive zero. -/
def zero : Binary64 := ⟨0⟩

/-- The same number with the sign bit set. -/
def negate (x : Binary64) : Binary64 := ⟨x.bits ^^^ 0x8000000000000000⟩

end Binary64

end TrackedEntity
