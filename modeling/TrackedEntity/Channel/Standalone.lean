import TrackedEntity.Channel.Exchange
import TrackedEntity.Compiled.Basic

/-!
# Channels without an entity

A channel works without an entity as well: handlers subscribe and unsubscribe, perhaps against
other writers, and anybody can tell them about a property, with any value for a sender. The bodies
of the handlers may then work on this channel; the sender has none of the surface of an entity.
-/

namespace TrackedEntity

/-- A wish of a writer. -/
inductive Subscription where
  | subscribe (h : HandlerSpec)
  | unsubscribe (h : HandlerSpec)

namespace Subscription

/-- The change that a wish comes to for the subscribed handlers, if any; what cannot be called
cannot subscribe. -/
def edit? (subscribed : List Handler) : Subscription → Except Fault (Option (Edit Handler))
  | .subscribe h => (h.addition Value.describe).map some
  | .unsubscribe h => h.removal? subscribed

/-- Fulfils a wish undisturbed. -/
def fulfil (wish : Subscription) : ExceptT Fault (StateM (Channel Handler)) Unit := do
  let c ← get
  match wish.edit? c.handlers with
  | .error f => throw f
  | .ok none => pure ()
  | .ok (some e) => set (c.edit e)

end Subscription

namespace Channel

/-- Fulfils a wish against other writers, who fulfil theirs before each exchange. -/
def fulfil (c : Channel Handler) (wish : Subscription)
    (interference : List (List Subscription)) : Attempted Handler Fault :=
  match wish.edit? c.handlers with
  | .error f => ⟨.error f, c, 0⟩
  | .ok none => ⟨.ok (), c, 0⟩
  | .ok (some e) => c.editWith e (interference.map fun wishes => wishes.forM Subscription.fulfil)

/-- What stays fixed while handlers of a channel without an entity run. -/
def scene (handlers : Table String HandlerSpec) : Scene :=
  { tokens := [], names := [], layout := ⟨.uint8, 0⟩, constants := [], handlers }

/-- What stands in the place of an entity while handlers run. -/
def holder (c : Channel Handler) : EntityState :=
  { className := "", slots := [], mask := .scalar 0, channel := some c, extras := none }

/-- Tells the handlers about a property. -/
def emit (c : Channel Handler) (handlers : Table String HandlerSpec) (depth : Nat) (sender : Value)
    (name : String) : StateM Traces (Except Halt Unit × Channel Handler) := do
  let (result, e) ← (notify ((scene handlers).run depth) sender name).runOn c.holder
  return (result, e.channel.getD c)

end Channel

end TrackedEntity
