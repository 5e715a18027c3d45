import TrackedEntity.Mask.Basic

/-!
# Mask layouts

A layout fixes the form and the size of the masks of one entity type. `Layout.allocate` chooses
the narrowest of the scalar widths 8, 16, 32 and 64 that has a bit for each tracked property, and
bytes, eight properties in each, for more than 64.
-/

namespace TrackedEntity

/-- The storage of a mask: a scalar of fixed width, or bytes. -/
inductive MaskKind where
  | uint8
  | uint16
  | uint32
  | uint64
  | bytes
deriving DecidableEq, Repr

namespace MaskKind

/-- The number of bits of a scalar kind; bytes have no fixed width. -/
def width? : MaskKind → Option Nat
  | .uint8 => some 8
  | .uint16 => some 16
  | .uint32 => some 32
  | .uint64 => some 64
  | .bytes => none

/-- Whether masks of the kind are scalars. -/
def isScalar (kind : MaskKind) : Bool := kind.width?.isSome

/-- The scalar kinds, narrowest first. -/
def scalars : List MaskKind := [.uint8, .uint16, .uint32, .uint64]

end MaskKind

/-- The representation shared by the masks of one entity type. -/
structure Layout where
  kind : MaskKind
  /-- The number of tracked properties. -/
  count : Int
deriving DecidableEq, Repr

namespace Layout

/-- The size of a mask in bytes. -/
def size (layout : Layout) : Int :=
  match layout.kind.width? with
  | some width => width / 8
  | none => (layout.count + 7) / 8

/-- A mask without ordinals. -/
def new (layout : Layout) : Except Fault Mask :=
  if layout.kind.isScalar then .ok (.scalar 0)
  else if !Position.isWord layout.size then .error .sizeTooLarge
  else if layout.size < 0 then .error .negativeSize
  else if Mask.leastTooLarge ≤ layout.size then .error .outOfMemory
  else .ok (.bytes (List.replicate layout.size.toNat 0))

/-- The narrowest kind with room for a number of properties. -/
def kindFor (count : Int) : MaskKind :=
  (MaskKind.scalars.find? fun kind => count ≤ (kind.width?.getD 0 : Nat)).getD .bytes

/-- The layout for a number of tracked properties. -/
def allocate (count : Int) : Except Fault Layout :=
  if count < 0 then .error (.negativeMaskCount count) else .ok ⟨kindFor count, count⟩

end Layout

end TrackedEntity
