import TrackedEntity.Number.Rounding
import TrackedEntity.Text.Blank
import TrackedEntity.Value.Equality

/-!
# Computing with values

What bodies can do with values beside comparing them for equality: join two of them (`plus`), ask
which of them comes first (`atLeast`), and take blanks off the ends of a text (`strip`).

Numbers are added in the widest of their types: whole numbers exactly, floating point numbers
rounded once, complex numbers part by part. Sequences and texts are joined with their own kind only.
The order is that of the numbers, of the characters and bytes, element by element for sequences,
and "contains all of" for sets.
-/

namespace TrackedEntity.Value

/-! ### Numbers among the values -/

/-- The integer that a whole number or a truth value is. -/
def integer? : Value → Option Int
  | .int n => some n
  | .bool b => some (if b then 1 else 0)
  | _ => Option.none

/-- The real number that a value is. -/
def real? : Value → Option Exact
  | .complex .. => Option.none
  | v => v.number?.map (·.1)

/-- The floating point number that a real number becomes beside one; a whole number may be too
large for that. -/
def float? : Value → Option (Except Fault Binary64)
  | .float _ x => some (.ok x)
  | v => v.integer?.map fun n =>
    if (Binary64.ofInt n).isInfinite then .error .tooLargeForFloat else .ok (.ofInt n)

/-- The parts of the complex number that a number becomes beside one. -/
def complex? : Value → Option (Except Fault (Binary64 × Binary64))
  | .complex _ re im => some (.ok (re, im))
  | v => v.float?.map fun x => x.map (·, Binary64.zero)

/-! ### Joining -/

/-- The sum of two numbers, in the widest of their types. -/
def sum? (a b : Value) : Option (Except Fault Value) :=
  match a.integer?, b.integer? with
  | some m, some n => some (.ok (.int (m + n)))
  | _, _ =>
    match a.float?, b.float? with
    | some x, some y => some do return .float .written ((← x).add (← y))
    | _, _ =>
      match a.complex?, b.complex? with
      | some z, some w => some do
        let (re, im) ← z
        let (re', im') ← w
        return .complex .written (re.add re') (im.add im')
      | _, _ => Option.none

/-- Two values joined: the sum of numbers, or one text or sequence after the other. The result is a
new object, except that joining an empty tuple gives back the other one. -/
def plus (a b : Value) : Except Fault Value :=
  match a, b with
  | .str s, .str t => .ok (.str (s ++ t))
  | .list _ xs, .list _ ys => .ok (.list .written (xs ++ ys))
  | .tuple _ [], .tuple _ _ => .ok b
  | .tuple _ _, .tuple _ [] => .ok a
  | .tuple _ xs, .tuple _ ys => .ok (.tuple .written (xs ++ ys))
  | .bytes s, .bytes t | .bytes s, .bytearray _ t => .ok (.bytes (s ++ t))
  | .bytearray _ s, .bytes t | .bytearray _ s, .bytearray _ t =>
    .ok (.bytearray .written (s ++ t))
  | .str _, _ | .list .., _ | .tuple .., _ => .error (.cannotContinue a.typeName b.typeName)
  | .bytes _, _ | .bytearray .., _ => .error (.cannotAppend b.typeName a.typeName)
  | _, _ => (sum? a b).getD (.error (.unsupportedOperands "+" a.typeName b.typeName))

/-! ### Order -/

/-- Whether one sequence is at least another in the order of dictionaries, for numbered elements. -/
def sequenceAtLeast : List Nat → List Nat → Bool
  | _, [] => true
  | [], _ :: _ => false
  | x :: xs, y :: ys => if x = y then sequenceAtLeast xs ys else y < x

/-- Whether one number is at least another; other values have no order of their own. -/
def numberAtLeast (a b : Value) : Except Fault Bool :=
  match a.real?, b.real? with
  | some x, some y => .ok (y.atMost x)
  | _, _ => .error (.incomparable ">=" a.typeName b.typeName)

mutual

/-- Whether the left value is at least the right one. -/
def atLeast : Value → Value → Except Fault Bool
  | .str s, b =>
    match b with
    | .str t => .ok (sequenceAtLeast (s.toList.map Char.toNat) (t.toList.map Char.toNat))
    | _ => .error (.incomparable ">=" "str" b.typeName)
  | .bytes s, b =>
    match b with
    | .bytes t | .bytearray _ t => .ok (sequenceAtLeast (s.map UInt8.toNat) (t.map UInt8.toNat))
    | _ => .error (.incomparable ">=" "bytes" b.typeName)
  | .bytearray _ s, b =>
    match b with
    | .bytes t | .bytearray _ t => .ok (sequenceAtLeast (s.map UInt8.toNat) (t.map UInt8.toNat))
    | _ => .error (.incomparable ">=" "bytearray" b.typeName)
  | .list _ xs, b =>
    match b with
    | .list _ ys => itemsAtLeast xs ys
    | _ => .error (.incomparable ">=" "list" b.typeName)
  | .tuple _ xs, b =>
    match b with
    | .tuple _ ys => itemsAtLeast xs ys
    | _ => .error (.incomparable ">=" "tuple" b.typeName)
  | .set _ xs, b =>
    match b with
    | .set _ ys | .frozenset _ ys => itemsWithin ys xs
    | _ => .error (.incomparable ">=" "set" b.typeName)
  | .frozenset _ xs, b =>
    match b with
    | .set _ ys | .frozenset _ ys => itemsWithin ys xs
    | _ => .error (.incomparable ">=" "frozenset" b.typeName)
  | a, b => numberAtLeast a b
termination_by structural a => a

/-- Whether one sequence is at least another: the first elements that differ decide, or else the
lengths. -/
def itemsAtLeast : List Value → List Value → Except Fault Bool
  | _, [] => .ok true
  | [], _ :: _ => .ok false
  | x :: xs, y :: ys =>
    match sameOr x y (equals x y) with
    | .ok true => itemsAtLeast xs ys
    | .ok false => atLeast x y
    | .error f => .error f
termination_by structural xs => xs

end

/-! ### Blanks and parts -/

/-- The blanks at the ends of bytes: those of ASCII. -/
def isBlankByte (b : UInt8) : Bool := b = 0x20 || (0x09 ≤ b && b ≤ 0x0d)

/-- Bytes without blanks at their ends. -/
def stripBytes (data : List UInt8) : List UInt8 :=
  ((data.dropWhile isBlankByte).reverse.dropWhile isBlankByte).reverse

/-- A text without blanks at its ends; bytes are texts here. -/
def strip : Value → Except Fault Value
  | .str s => .ok (.str (Text.trim s))
  | .bytes data => .ok (.bytes (stripBytes data))
  | .bytearray _ data => .ok (.bytearray .written (stripBytes data))
  | v => .error (.noAttribute v.typeName "strip")

/-- What can be read from a plain value by name: numbers have parts, points have coordinates. -/
def part (v : Value) (name : String) : Except Fault Value :=
  match v, name with
  | .bool _, "real" | .bool _, "numerator" | .int _, "real" | .int _, "numerator" =>
    .ok (.int (v.integer?.getD 0))
  | .bool _, "imag" | .int _, "imag" => .ok (.int 0)
  | .bool _, "denominator" | .int _, "denominator" => .ok (.int 1)
  | .float .., "real" => .ok v
  | .float .., "imag" => .ok (.float .written Binary64.zero)
  | .complex _ re _, "real" => .ok (.float .written re)
  | .complex _ _ im, "imag" => .ok (.float .written im)
  | .point _ _ x _, "x" => .ok x
  | .point _ _ _ y, "y" => .ok y
  | _, _ => .error (.noAttribute v.typeName name)

end TrackedEntity.Value
