import TrackedEntity.Number.Shortest

/-!
# Numbers as text

A decimal is written positionally when its point lies near its digits and with an exponent
otherwise. The decisions are one record, `DecimalLayout`: numbers that stand alone keep a point
and a zero (`1.0`), the parts of a complex number do not (`1j`).
-/

namespace TrackedEntity

/-- How a decimal is laid out. With `n` digits and exponent `e` its point stands after
`n + e` digits. -/
structure DecimalLayout where
  /-- The point stands after more digits than this, or an exponent is written. -/
  pointAbove : Int
  /-- The point stands after at most this many digits, or an exponent is written. -/
  pointAtMost : Int
  /-- Whether a whole number ends in `.0`. -/
  wholeMark : Bool
  /-- The least number of digits of an exponent. -/
  exponentDigits : Nat

namespace DecimalLayout

/-- The layout of a number that stands alone: `0.0001`, `1e-05`, `1000000000000000.0`, `1e+16`. -/
def alone : DecimalLayout := ⟨-4, 16, true, 2⟩

/-- The layout of the parts of a complex number: as alone, without the mark of whole numbers. -/
def part : DecimalLayout := { alone with wholeMark := false }

/-- The given number of zeros. -/
def zeros (n : Nat) : String := String.ofList (List.replicate n '0')

/-- A decimal, laid out. -/
def write (layout : DecimalLayout) (d : Decimal) : String :=
  let digits := toString d.digits
  let n := digits.length
  let point : Int := n + d.exponent
  if layout.pointAbove < point ∧ point ≤ layout.pointAtMost then
    if point ≤ 0 then "0." ++ zeros (-point).toNat ++ digits
    else if n ≤ point then
      digits ++ zeros (point - n).toNat ++ (if layout.wholeMark then ".0" else "")
    else String.ofList (digits.toList.take point.toNat) ++ "."
      ++ String.ofList (digits.toList.drop point.toNat)
  else
    let power := point - 1
    let powerDigits := toString power.natAbs
    let rest := digits.toList.drop 1
    String.ofList (digits.toList.take 1)
      ++ (if rest.isEmpty then "" else "." ++ String.ofList rest)
      ++ (if power < 0 then "e-" else "e+")
      ++ zeros (layout.exponentDigits - powerDigits.length) ++ powerDigits

end DecimalLayout

namespace Binary64

/-- The text of the absolute value. -/
def sizeText (layout : DecimalLayout) (x : Binary64) : String :=
  if x.isNaN then "nan"
  else if x.isInfinite then "inf"
  else layout.write x.shortest

/-- The text of a floating point number; what is not a number shows no sign. -/
def text (layout : DecimalLayout) (x : Binary64) : String :=
  (if x.isNegative && !x.isNaN then "-" else "") ++ x.sizeText layout

/-- The text with a sign in front in every case. -/
def signedText (layout : DecimalLayout) (x : Binary64) : String :=
  (if x.isNegative && !x.isNaN then "-" else "+") ++ x.sizeText layout

end Binary64

/-- The text of a complex number: the imaginary part alone when the real part is positive zero,
both in parentheses otherwise. -/
def complexText (re im : Binary64) : String :=
  if re == Binary64.zero then im.text .part ++ "j"
  else "(" ++ re.text .part ++ im.signedText .part ++ "j)"

end TrackedEntity
