import TrackedEntity.Entity.State

/-!
# Reading and assigning properties

An assignment runs in this order: the setter hook decides, or without hook the new value is
compared with the stored one; unless that ends the assignment, the value is stored, the mask is
marked, and the subscribers are told.

Telling the subscribers (`notify`) calls the handlers that are subscribed when it begins, each once,
in order; a handler that ends with a fault ends the whole.

Hooks and handlers are called through a `Runner`, whatever that does with their bodies.
-/

namespace TrackedEntity

namespace Exec

/-- The value in a slot. -/
def readSlot (ordinal : Int) : Exec Value := do
  if !Position.isWord ordinal then fail .positionTooLarge
  let e ← entity
  match Position.fromEnds? e.slots.length ordinal with
  | none => fail .slotOutOfRange
  | some i => return e.slots.getD i .none

/-- Replaces the value in a slot. -/
def writeSlot (ordinal : Int) (v : Value) : Exec Unit := do
  if !Position.isWord ordinal then fail .positionTooLarge
  let e ← entity
  match Position.fromEnds? e.slots.length ordinal with
  | none => fail .slotAssignmentOutOfRange
  | some i => setEntity { e with slots := e.slots.set i v }

/-- Adds an ordinal to the mask. -/
def mark (ordinal : Int) : Exec Unit := do
  let e ← entity
  let mask ← ofExcept (e.mask.mark ordinal)
  setEntity { e with mask }

end Exec

open Exec

/-- Calls a hook. -/
def Hook.call (run : Runner) (h : Hook) (args : List Value) : Exec Value :=
  match h.signature.bind args with
  | none => fail (.wrongArguments args.length)
  | some seen => run h.body seen

/-- Calls handlers with a sender and a property name, in order. -/
def callHandlers (run : Runner) (emission : Nat) (sender : Value) (name : String) :
    List Handler → Exec Unit
  | [] => pure ()
  | h :: hs => do
    record (.called emission h sender name (← entity))
    let _ ← run h.body [sender, .str name]
    callHandlers run emission sender name hs

/-- Tells the subscribers about a property. -/
def notify (run : Runner) (sender : Value) (name : String) : Exec Unit := do
  match (← entity).channel with
  | none => fail (.noAttribute "NoneType" "emit")
  | some channel =>
    let emission ← place
    record (.emitted name channel.handlers)
    -- who subscribes or leaves from here on makes no difference to this emission
    callHandlers run emission sender name channel.handlers

/-- Reads a property. -/
def Getter.read (run : Runner) : Getter → Exec Value
  | .slot ordinal => readSlot ordinal
  | .unreadable property owner => fail (.unreadable property owner)
  | .hook h => do h.call run [← self]
  | .hookWithSlot h ordinal => do h.call run [← self, ← readSlot ordinal]
  | .hookWithDefault h default => do h.call run [← self, default]

namespace Setter

/-- Whether an assignment goes ahead: the hook says so, or without hook the value differs from the
stored one. -/
def goesAhead (run : Runner) (s : Setter) (v : Value) : Exec Bool :=
  match s.hook with
  | some h => do isTrue (← h.call run [← self, v])
  | none => do
    let current ← readSlot s.ordinal
    let equal ← ofExcept
      (if s.direct then Value.directlyEqual current v else Value.identityFirst current v)
    return !equal

/-- Assigns a property. -/
def assign (run : Runner) (s : Setter) (v : Value) : Exec Unit := do
  if ← s.goesAhead run v then
    writeSlot s.ordinal v
    record (.stored s.name s.ordinal v)
    -- the mask is read only now: the hook may have assigned other properties
    mark s.ordinal
    if s.notifies then notify run (← self) s.name

end Setter

/-- Assigns the property of a token outright; there is nothing to call when it cannot be
assigned. -/
def Token.assign (run : Runner) (t : Token) (v : Value) : Exec Unit :=
  match t.setter with
  | some s => s.assign run v
  | none => fail (.notCallable "NoneType")

/-- Reads a property for reports. -/
def Token.read (run : Runner) (t : Token) : Exec Value :=
  match t.reader with
  | none | some .getter => t.getter.read run
  | some (.slot ordinal) => readSlot ordinal

end TrackedEntity
