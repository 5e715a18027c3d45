import TrackedEntity.Channel.Basic
import TrackedEntity.Program.Expr
import TrackedEntity.Value.Equality

/-!
# Handlers

A handler is called with the sender and the name of a property. Most handlers are equal to
themselves only; handlers with a key are equal to those with the same key.

Unsubscribing compares each subscribed handler with what is given, the last one first. What is given
need not be callable: a value that is no handler equals none, but an object with an equality of its
own is asked by every handler that has no key, since such a handler has no opinion about it.
-/

namespace TrackedEntity

/-- What makes two handlers equal. -/
inductive HandlerIdentity where
  | itself (name : String)
  | key (key : String)
deriving DecidableEq, Repr

/-- A handler that can be called. -/
structure Handler where
  name : String
  identity : HandlerIdentity
  body : Expr

instance : BEq Handler := ⟨fun a b => a.identity == b.identity⟩

/-- Whether a handler leaves it to the other side whether the two are equal. -/
def Handler.asksOther (h : Handler) : Bool :=
  match h.identity with
  | .itself _ => true
  | .key _ => false

/-- Something given as a handler. -/
inductive HandlerSpec where
  | callable (h : Handler)
  /-- A value that cannot be called. -/
  | value (v : Value)

namespace HandlerSpec

/-- The change that subscribing makes; what cannot be called cannot subscribe. -/
def addition (describe : Value → String) : HandlerSpec → Except Fault (Edit Handler)
  | .callable h => .ok (.add h)
  | .value v => .error (.handlerNotCallable (describe v))

/-- The change that unsubscribing makes to the subscribed handlers, if any. -/
def removal? (subscribed : List Handler) : HandlerSpec → Except Fault (Option (Edit Handler))
  | .callable h => .ok (some (.removeEqual h))
  | .value v =>
    if subscribed.any Handler.asksOther then do
      return if ← v.askRight then some (.remove Handler.asksOther) else none
    else .ok none

end HandlerSpec

end TrackedEntity
