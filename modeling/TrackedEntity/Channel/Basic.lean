/-!
# Channels

A channel holds the handlers that are told about changes, in the order in which they subscribed.
The handlers are published as a whole, as a `Snapshot` that never changes; adding and removing
publish a new one. Snapshots have an identity, a serial number: two snapshots with the same
handlers are still two, except that there is only one empty snapshot, number zero.

Which handlers a removal is after is up to a test; usually it is equality with a given handler.
Removing takes out the handler that was added last among those that pass, and nothing if there is
none.
-/

namespace TrackedEntity

/-- The handlers published at some moment. -/
structure Snapshot (α : Type u) where
  serial : Nat
  handlers : List α
deriving Repr

/-- The published handlers, and the serial number of the next snapshot. -/
structure Channel (α : Type u) where
  current : Snapshot α
  nextSerial : Nat
deriving Repr

/-- A change to the handlers. -/
inductive Edit (α : Type u) where
  | add (handler : α)
  /-- Takes out the last handler that passes a test. -/
  | remove (passes : α → Bool)

/-- The list without the last element that passes a test; `none` if there is none. -/
def removeLast? (passes : α → Bool) : List α → Option (List α)
  | [] => none
  | y :: ys =>
    match removeLast? passes ys with
    | some rest => some (y :: rest)
    | none => if passes y then some ys else none

namespace Edit

/-- The change that removes a handler: the last one that equals it goes. -/
def removeEqual [BEq α] (handler : α) : Edit α := .remove (· == handler)

/-- The handlers after a change; `none` if there is nothing to change. -/
def change? (e : Edit α) (handlers : List α) : Option (List α) :=
  match e with
  | .add h => some (handlers ++ [h])
  | .remove passes => removeLast? passes handlers

/-- The handlers after a change. -/
def apply (e : Edit α) (handlers : List α) : List α :=
  (e.change? handlers).getD handlers

end Edit

namespace Channel

/-- A channel without handlers. -/
def empty : Channel α := ⟨⟨0, []⟩, 1⟩

/-- The handlers in order of subscription. -/
def handlers (c : Channel α) : List α := c.current.handlers

/-- A snapshot of handlers that is ready to be published, with the channel's numbering moved on.
There is one empty snapshot only. -/
def prepare (c : Channel α) (handlers : List α) : Snapshot α × Channel α :=
  if handlers.isEmpty then (⟨0, []⟩, c)
  else (⟨c.nextSerial, handlers⟩, { c with nextSerial := c.nextSerial + 1 })

/-- Publishes a candidate if the comparand is still current. The first component is the snapshot
that was current before. -/
def exchange (c : Channel α) (candidate comparand : Snapshot α) : Snapshot α × Channel α :=
  (c.current, if c.current.serial = comparand.serial then { c with current := candidate } else c)

/-- A change that no other writer disturbs. -/
def edit (c : Channel α) (e : Edit α) : Channel α :=
  match e.change? c.handlers with
  | none => c
  | some handlers =>
    let (candidate, c) := c.prepare handlers
    { c with current := candidate }

/-- The text of a channel. -/
def describe (c : Channel α) : String :=
  "PropertyChangedChannel(handlers=" ++ toString c.handlers.length ++ ")"

end Channel

end TrackedEntity
