import TrackedEntity.Number.Rounding
import TrackedEntity.Text.Blank

/-!
# Reading numbers

The text of a number is an optional sign followed by `inf`, `infinity` or `nan` in any letter
case, or by digits with an optional point and an optional exponent; at least one digit stands
before or after the point. White space around it does not count. Single underscores inside the
text may separate digits, but then no white space is allowed.
-/

namespace TrackedEntity

namespace Binary64

/-- The value of decimal digits. -/
def digitsValue (cs : List Char) : Nat :=
  cs.foldl (fun n c => 10 * n + (c.toNat - '0'.toNat)) 0

/-- Whether there are digits and nothing else. -/
def isDigits (cs : List Char) : Bool := !cs.isEmpty && cs.all Char.isDigit

/-- A sign, if there is one, and the rest. -/
def takeSign : List Char → Bool × List Char
  | '-' :: rest => (true, rest)
  | '+' :: rest => (false, rest)
  | cs => (false, cs)

/-- The exponent after the digits: nothing, or a letter `e` and a signed number. -/
def readExponent? : List Char → Option Int
  | [] => some 0
  | c :: rest =>
    if c = 'e' || c = 'E' then
      let (negative, digits) := takeSign rest
      if isDigits digits then
        some (if negative then -(digitsValue digits : Int) else digitsValue digits)
      else none
    else none

/-- An unsigned number. -/
def readSize? (cs : List Char) : Option Binary64 :=
  let word := String.ofList (cs.map Char.toLower)
  if word = "inf" || word = "infinity" then some ⟨UInt64.ofNat infinityPattern⟩
  else if word = "nan" then some ⟨0x7ff8000000000000⟩
  else
    let whole := cs.takeWhile Char.isDigit
    let afterWhole := cs.dropWhile Char.isDigit
    let (part, rest) :=
      match afterWhole with
      | '.' :: more => (more.takeWhile Char.isDigit, more.dropWhile Char.isDigit)
      | more => ([], more)
    if whole.isEmpty && part.isEmpty then none
    else (readExponent? rest).map fun exponent =>
      ofDecimal (digitsValue (whole ++ part)) (exponent - part.length)

/-- A number without anything around it. -/
def readExact? (cs : List Char) : Option Binary64 :=
  let (negative, size) := takeSign cs
  (readSize? size).map fun x => if negative then x.negate else x

/-- The text without its underscores, when each of them stands alone and inside. -/
def dropUnderscores? (cs : List Char) : Option (List Char) :=
  let doubled := (cs.zip (cs.drop 1)).any fun p => p.1 == '_' && p.2 == '_'
  if !cs.contains '_' || cs.head? == some '_' || cs.getLast? == some '_' || doubled then none
  else some (cs.filter (· != '_'))

/-- The number that a text stands for. -/
def read? (s : String) : Option Binary64 :=
  (readExact? (Text.trimChars Text.isWhiteSpace s.toList)).or
    ((dropUnderscores? s.toList).bind readExact?)

end Binary64

end TrackedEntity
