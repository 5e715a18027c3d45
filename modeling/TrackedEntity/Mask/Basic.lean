import TrackedEntity.Fault
import TrackedEntity.Position

/-!
# Change masks

A mask is a set of ordinals, one bit for each. It has one of two forms. A *scalar* mask is a
natural number with the bit `2 ^ i` for the ordinal `i`; a *byte* mask is a sequence of bytes in
which the ordinal `i` is bit `i % 8` of byte `i / 8`.

Ordinals are integers here, because the two forms answer differently to those that they cannot
hold: a scalar mask has no negative ordinals and no largest one short of the end of memory, a byte
mask counts negative byte positions from its end and refuses those outside.

`ordinals` enumerates a mask from below by taking out its lowest bit again and again. All
operations are seen through one view, "the ordinal `i` is in the mask" (`Nat.testBit`).
-/

namespace TrackedEntity

/-- A set of ordinals in one of the two forms. -/
inductive Mask where
  | scalar (bits : Nat)
  | bytes (data : List UInt8)
deriving DecidableEq, Repr

namespace Mask

/-! ### Single bits -/

/-- A number without its lowest bit. -/
def clearLowest (n : Nat) : Nat := n &&& (n - 1)

theorem clearLowest_lt {n : Nat} (h : n ≠ 0) : clearLowest n < n :=
  Nat.lt_of_le_of_lt Nat.and_le_right (Nat.sub_lt (Nat.pos_of_ne_zero h) Nat.one_pos)

/-- The positions of the bits of a number, lowest first. -/
def setBits (n : Nat) : List Nat :=
  if _h : n = 0 then [] else Nat.log2 (n ^^^ clearLowest n) :: setBits (clearLowest n)
termination_by n
decreasing_by exact clearLowest_lt _h

/-- The place of an ordinal in a byte mask: the byte, counted from either end, and the bit. -/
def byteAndBit (ordinal : Int) : Int × Nat := (ordinal / 8, (ordinal % 8).toNat)

/-- The index of a byte of a byte mask, which is counted from either end. -/
def byteIndex (length : Nat) (byte : Int) : Except Fault Nat :=
  if !Position.isWord byte then .error .positionTooLarge
  else
    match Position.fromEnds? length byte with
    | none => .error .byteOutOfRange
    | some i => .ok i

/-- The least ordinal that no scalar has room for: scalars are numbers of as many digits of 30 bits
as a word can count. -/
def leastTooLong : Nat := 30 * 9223372036854775808

/-- The least ordinal that no memory has room for. -/
def leastTooLarge : Nat := 549755813888

/-- The byte with one bit added. -/
def setByteBit (byte : UInt8) (bit : Nat) : UInt8 := byte ||| (1 <<< UInt8.ofNat bit)

/-! ### Masks -/

/-- The mask with an ordinal added. -/
def mark (mask : Mask) (ordinal : Int) : Except Fault Mask :=
  match mask with
  | .scalar bits =>
    if ordinal < 0 then .error .negativeShift
    else if leastTooLong ≤ ordinal.toNat then .error .tooManyDigits
    else if leastTooLarge ≤ ordinal.toNat then .error .outOfMemory
    else .ok (.scalar (bits ||| (1 <<< ordinal.toNat)))
  | .bytes data =>
    let (byte, bit) := byteAndBit ordinal
    (byteIndex data.length byte).map fun i => .bytes (data.modify i (setByteBit · bit))

/-- Whether an ordinal is in the mask. -/
def isSet (mask : Mask) (ordinal : Int) : Except Fault Bool :=
  match mask with
  | .scalar bits =>
    if ordinal < 0 then .error .negativeShift else .ok (bits.testBit ordinal.toNat)
  | .bytes data =>
    let (byte, bit) := byteAndBit ordinal
    (byteIndex data.length byte).map fun i => (data.getD i 0).toNat.testBit bit

/-- Whether the mask has any ordinal. -/
def any : Mask → Bool
  | .scalar bits => bits != 0
  | .bytes data => data.any (· != 0)

/-- The ordinals of the bytes from the given byte on. -/
def ordinalsFrom : (byte : Nat) → List UInt8 → List Nat
  | _, [] => []
  | byte, b :: bs => (setBits b.toNat).map (8 * byte + ·) ++ ordinalsFrom (byte + 1) bs

/-- The ordinals of the mask, lowest first. -/
def ordinals : Mask → List Nat
  | .scalar bits => setBits bits
  | .bytes data => ordinalsFrom 0 data

end Mask

end TrackedEntity
