/-!
# Hexadecimal text

Numbers and bytes in hexadecimal digits: numbers with a fixed number of digits, most significant
first, bytes with two digits each. Letters are written small and read in either case.
-/

namespace TrackedEntity.Text

/-- A hexadecimal digit. -/
def hexDigit (n : Nat) : Char := "0123456789abcdef".toList.getD n '0'

/-- The last `width` hexadecimal digits of a number. -/
def hexDigits : (width : Nat) → Nat → List Char
  | 0, _ => []
  | width + 1, n => hexDigits width (n / 16) ++ [hexDigit (n % 16)]

/-- Bytes in hexadecimal digits. -/
def hexOfBytes (data : List UInt8) : String :=
  String.ofList (data.flatMap fun b => hexDigits 2 b.toNat)

/-- The number that a hexadecimal digit stands for. -/
def hexDigit? (c : Char) : Option Nat :=
  if '0' ≤ c ∧ c ≤ '9' then some (c.toNat - '0'.toNat)
  else if 'a' ≤ c ∧ c ≤ 'f' then some (c.toNat - 'a'.toNat + 10)
  else if 'A' ≤ c ∧ c ≤ 'F' then some (c.toNat - 'A'.toNat + 10)
  else none

/-- The number that hexadecimal digits stand for. -/
def ofHex? (s : String) : Option Nat := do
  return (← s.toList.mapM hexDigit?).foldl (fun n d => 16 * n + d) 0

/-- The bytes that pairs of digits stand for; a lone digit at the end is refused. -/
def bytesOfDigits? : List Nat → Option (List UInt8)
  | [] => some []
  | [_] => none
  | a :: b :: rest => (bytesOfDigits? rest).map (UInt8.ofNat (16 * a + b) :: ·)

/-- The bytes that hexadecimal digits stand for. -/
def bytesOfHex? (s : String) : Option (List UInt8) := do
  bytesOfDigits? (← s.toList.mapM hexDigit?)

end TrackedEntity.Text
