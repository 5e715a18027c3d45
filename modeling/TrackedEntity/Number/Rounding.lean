import TrackedEntity.Number.Binary64

/-!
# Rounding to the nearest floating point number

`Binary64.nearest num den` is the floating point number nearest to the fraction `num / den`, of
two equally near ones the one with the even significand. The significand is one rounded integer
quotient; the exponent is chosen so that the quotient has fifty-three binary digits, or is the
smallest exponent when the number is too small for that. A quotient that rounds up to the next
power of two carries into the exponent field by itself, and a pattern at or beyond that of
infinity is infinity.
-/

namespace TrackedEntity

/-- The integer nearest to `num / den`; a half goes to the even neighbour. -/
def roundHalfEven (num den : Nat) : Nat :=
  let quotient := num / den
  let twice := 2 * (num % den)
  if den < twice ∨ (twice = den ∧ quotient % 2 = 1) then quotient + 1 else quotient

namespace Binary64

/-- The pattern of positive infinity. -/
def infinityPattern : Nat := 2047 * twoPow 52

/-- The rounded quotient of `num / den` and `2 ^ q`. -/
def significandAt (num den : Nat) (q : Int) : Nat :=
  if 0 ≤ q then roundHalfEven num (den * twoPow q.toNat)
  else roundHalfEven (num * twoPow (-q).toNat) den

/-- The exponent at which `num / den` has a significand of fifty-three binary digits, or the
smallest exponent there is. -/
def exponentFor (num den : Nat) : Int :=
  let guess : Int := (Nat.log2 num : Int) - Nat.log2 den - 52
  let full : Bool :=
    if 0 ≤ guess then den * twoPow guess.toNat * twoPow 52 ≤ num
    else den * twoPow 52 ≤ num * twoPow (-guess).toNat
  max (-1074) (if full then guess else guess - 1)

/-- The floating point number nearest to `num / den`, for a positive `den`. -/
def nearest (num den : Nat) : Binary64 :=
  if num = 0 then zero
  else
    let q := exponentFor num den
    let pattern := (q + 1074).toNat * twoPow 52 + significandAt num den q
    ⟨UInt64.ofNat (min pattern infinityPattern)⟩

/-- The floating point number nearest to an integer. -/
def ofInt (n : Int) : Binary64 :=
  if n < 0 then (nearest n.natAbs 1).negate else nearest n.natAbs 1

/-- The decimal number `digits · 10 ^ exponent`, rounded. Exponents far outside the range of the
format are decided without computing the power. -/
def ofDecimal (digits : Nat) (exponent : Int) : Binary64 :=
  let magnitude : Int := (Nat.log2 digits : Int) / 3 + exponent
  if digits = 0 then zero
  else if 2000 < magnitude then ⟨UInt64.ofNat infinityPattern⟩
  else if (Nat.log2 digits : Int) / 4 + exponent < -2000 then zero
  else if 0 ≤ exponent then nearest (digits * tenPow exponent.toNat) 1
  else nearest digits (tenPow (-exponent).toNat)

/-- The floating point number nearest to `m · 2 ^ e`. -/
def ofDyadic (m e : Int) : Binary64 :=
  let size := m.natAbs
  let rounded :=
    if 0 ≤ e then nearest (size * twoPow e.toNat) 1 else nearest size (twoPow (-e).toNat)
  if m < 0 then rounded.negate else rounded

/-- The product of a floating point number and a natural number, rounded once. -/
def timesNat (x : Binary64) (n : Nat) : Exact :=
  match x.exact with
  | .notANumber => .notANumber
  | .infinite s => if n = 0 then .notANumber else .infinite s
  | .finite m e => (ofDyadic (m * n) e).exact

/-- The pattern that stands for no number. -/
def notANumber : Binary64 := ⟨0x7ff8000000000000⟩

/-- The sum of two floating point numbers, rounded once. A sum of zero is positive unless both
numbers are negative; opposite infinities have no sum. -/
def add (x y : Binary64) : Binary64 :=
  match x.exact, y.exact with
  | .finite m e, .finite m' e' =>
    let low := min e e'
    let sum := Exact.align m e low + Exact.align m' e' low
    if sum = 0 then (if x.isNegative && y.isNegative then zero.negate else zero)
    else ofDyadic sum low
  | .infinite s, .infinite s' => if s = s' then x else notANumber
  | .infinite _, .finite _ _ => x
  | .finite _ _, .infinite _ => y
  | _, _ => notANumber

end Binary64

end TrackedEntity
