import TrackedEntity.Number.Binary64

/-!
# The shortest decimal that reads back

Every real number strictly between the midpoints to a float's two neighbours is read back as that
float; the midpoints themselves are when the significand is even. `Binary64.shortest` is the
decimal with the fewest digits in that interval, and among those the one nearest to the float.

The search goes over the grids of one, two, three … digits. If any point of a grid lies in the
interval, one of the two grid points around the float does, so two candidates are tested per grid,
in exact integer arithmetic: with `unit = 4 · 10 ^ k` and everything multiplied by the same
denominator, the point `c · 10 ^ k` becomes `c · grid` and the float `± m · 2 ^ q` becomes
`4 · m · span`. Seventeen digits always suffice.
-/

namespace TrackedEntity

/-- The decimal number `digits · 10 ^ exponent`. -/
structure Decimal where
  digits : Nat
  exponent : Int
deriving DecidableEq, Repr

namespace Decimal

/-- The same number without zeros at the end of its digits. -/
def dropZeros : Nat → Decimal → Decimal
  | 0, d => d
  | fuel + 1, d =>
    if d.digits ≠ 0 ∧ d.digits % 10 = 0 then
      dropZeros fuel ⟨d.digits / 10, d.exponent + 1⟩
    else d

end Decimal

namespace Binary64

/-- The interval of the reals that are read as `m · 2 ^ q`, in quarters of `2 ^ q`. Below a power
of two the neighbour is only half as far away. -/
structure Rounds where
  low : Nat
  high : Nat
  /-- Whether the two ends themselves are read as the number. -/
  closed : Bool

/-- The reals that round to `m · 2 ^ q`. -/
def rounds (m : Nat) (q : Int) : Rounds :=
  { low := 4 * m - (if m = twoPow 52 ∧ -1074 < q then 1 else 2)
    high := 4 * m + 2
    closed := m % 2 = 0 }

/-- One grid point tried: the multiple `c` of the grid's unit lies in the interval. -/
def Rounds.holds (r : Rounds) (grid span c : Nat) : Bool :=
  if r.closed then r.low * span ≤ c * grid && c * grid ≤ r.high * span
  else r.low * span < c * grid && c * grid < r.high * span

/-- The power of ten above the number: the least `e` with `m · 2 ^ q < 10 ^ e`, or one more. -/
def decimalMagnitude (m : Nat) (q : Int) : Int :=
  let guess : Int := ((Nat.log2 m : Int) + q) * 30103 / 100000 + 1
  let below : Bool :=
    m * twoPow q.toNat * tenPow (-guess).toNat < tenPow guess.toNat * twoPow (-q).toNat
  if below then guess else guess + 1

/-- The better of the two points of the grid `10 ^ k` around `m · 2 ^ q` that reads back. -/
def gridPoint? (m : Nat) (q k : Int) : Option Nat :=
  let grid := 4 * tenPow k.toNat * twoPow (-q).toNat
  let span := twoPow q.toNat * tenPow (-k).toNat
  let r := rounds m q
  let c := 4 * m * span / grid
  let distanceDown := 4 * m * span - c * grid
  let distanceUp := (c + 1) * grid - 4 * m * span
  let down := r.holds grid span c && c != 0
  let up := r.holds grid span (c + 1)
  if down && up then
    if distanceDown < distanceUp || (distanceDown == distanceUp && c % 2 == 0) then some c
    else some (c + 1)
  else if down then some c
  else if up then some (c + 1)
  else none

/-- The search over the grids, from `digits` digits on. -/
def shortestFrom (m : Nat) (q magnitude : Int) : (fuel : Nat) → (digits : Nat) → Decimal
  | 0, digits => ⟨m, q + digits⟩
  | fuel + 1, digits =>
    match gridPoint? m q (magnitude - digits) with
    | some c => Decimal.dropZeros 20 ⟨c, magnitude - digits⟩
    | none => shortestFrom m q magnitude fuel (digits + 1)

/-- The shortest decimal that reads back as the absolute value of a finite number. -/
def shortest (x : Binary64) : Decimal :=
  if x.significand = 0 then ⟨0, 0⟩
  else shortestFrom x.significand x.scale (decimalMagnitude x.significand x.scale) 20 1

end Binary64

end TrackedEntity
