import TrackedEntity.Number.Powers

/-!
# Exact numbers

The numbers that can be compared with each other are whole numbers and binary fractions, so every
one of them is `mantissa · 2 ^ exponent` for integers, or lies outside the number line. `Exact`
is that form. Two of them are compared by bringing them to the smaller exponent, where the
comparison is one of integers and nothing is rounded.
-/

namespace TrackedEntity

/-- A dyadic number, an infinity, or no number at all. -/
inductive Exact where
  | notANumber
  | infinite (negative : Bool)
  | finite (mantissa exponent : Int)
deriving DecidableEq, Repr

namespace Exact

/-- A whole number. -/
def ofInt (n : Int) : Exact := .finite n 0

/-- The mantissa of `m · 2 ^ e` after moving to the exponent `target`, which is at most `e`. -/
def align (m e target : Int) : Int := m * twoPow (e - target).toNat

/-- Equality of values; what is not a number equals nothing. -/
def equals : Exact → Exact → Bool
  | .finite m e, .finite m' e' => align m e (min e e') == align m' e' (min e e')
  | .infinite s, .infinite s' => s == s'
  | _, _ => false

/-- Strict order of values; what is not a number is neither below nor above anything. -/
def less : Exact → Exact → Bool
  | .finite m e, .finite m' e' => align m e (min e e') < align m' e' (min e e')
  | .infinite s, .infinite s' => s && !s'
  | .infinite s, .finite _ _ => s
  | .finite _ _, .infinite s => !s
  | _, _ => false

/-- Order of values, with equality. -/
def atMost (a b : Exact) : Bool := less a b || equals a b

/-- Whether the value is a whole number. -/
def isWhole : Exact → Bool
  | .finite m e => 0 ≤ e || m % twoPow (-e).toNat == 0
  | _ => false

/-- Whether the value is zero. -/
def isZero : Exact → Bool
  | .finite m _ => m == 0
  | _ => false

end Exact

end TrackedEntity
