import TrackedEntity.Entity.Handler
import TrackedEntity.Mask.Layout
import TrackedEntity.Accessor.Token
import TrackedEntity.Value.Making

/-!
# Entities and operations on them

An entity has a class, one slot per mutable property, a change mask, and a channel if its contract
asks for notification. It may carry further attributes of its own, which nobody tracks. An operation
on it may also make new objects, and it leaves a history of what happened, in which the log that
bodies write to is found; all of this together is a `Moment`.

Operations are computations in `Exec`. They end by returning, by a fault, or, when bodies call
each other too deeply, by exhaustion; in every case what they did before stays done.

What does not change while an operation runs is its `Scene`: the tokens of the entity's type, the
names of its mutable properties by ordinal, the layout of its mask, what its class holds beside the
properties, and the handlers by name.
-/

namespace TrackedEntity

/-- The state of one entity. -/
structure EntityState where
  /-- The name of the entity's class. -/
  className : String
  slots : List Value
  mask : Mask
  channel : Option (Channel Handler)
  /-- Attributes that no property stands behind; `none` if the entity cannot have any. -/
  extras : Option (Table String Value)

/-- Something that happened in the course of an operation. -/
inductive Event where
  /-- A body wrote a value to the log. -/
  | logged (v : Value)
  /-- A value went into the slot of a property. -/
  | stored (name : String) (ordinal : Int) (v : Value)
  /-- An emission began, which is to call these handlers. -/
  | emitted (name : String) (handlers : List Handler)
  /-- The emission that began at a place of the history called a handler, while the entity was in
  the given state. -/
  | called (emission : Nat) (handler : Handler) (sender : Value) (name : String)
      (state : EntityState)
  /-- A handler subscribed or unsubscribed. -/
  | edited (change : Edit Handler)

/-- The value that an event wrote to the log. -/
def Event.logged? : Event → Option Value
  | .logged v => some v
  | _ => none

/-- Everything that an operation on an entity can change. -/
structure Moment where
  entity : EntityState
  /-- What happened so far, in order. Operations add to it and never look at it. -/
  history : List Event
  nextSerial : Nat

/-- What operations leave behind beside the entities: a history, and the numbering of objects. -/
structure Traces where
  history : List Event
  nextSerial : Nat

/-- The values that were written to the log, in order. -/
def Traces.log (t : Traces) : List Value := t.history.filterMap Event.logged?

/-- Why an operation did not return. -/
inductive Halt where
  | fault (f : Fault)
  /-- Bodies called bodies more deeply than allowed. -/
  | exhausted
deriving DecidableEq

/-- Operations on an entity. -/
abbrev Exec := ExceptT Halt (StateM Moment)

/-- What stays fixed while operations run. -/
structure Scene where
  tokens : Table String Token
  /-- The names of the mutable properties, by ordinal. -/
  names : List String
  layout : Layout
  /-- What entities read from their class where no property has the name. -/
  constants : Table String Value
  handlers : Table String HandlerSpec

/-- A way to evaluate a body on its arguments. -/
abbrev Runner := Expr → List Value → Exec Value

namespace Exec

/-- Ends with a fault. -/
def fail (f : Fault) : Exec α := throw (.fault f)

/-- The result of a computation that touches nothing. -/
def ofExcept : Except Fault α → Exec α
  | .ok a => pure a
  | .error f => fail f

/-- The state of the entity. -/
def entity : Exec EntityState := do return (← get).entity

/-- The name of the entity's class. -/
def className : Exec String := do return (← entity).className

/-- The entity itself, as hooks and handlers are given it. -/
def self : Exec Value := do return .entity (← className)

/-- Replaces the state of the entity. -/
def setEntity (e : EntityState) : Exec Unit := modify fun m => { m with entity := e }

/-- Makes an object. -/
def make (v : Value) : Exec Value := do
  let m ← get
  let (made, next) := v.make.run m.nextSerial
  set { m with nextSerial := next }
  ofExcept made

/-- The place that the next event will have in the history. -/
def place : Exec Nat := do return (← get).history.length

/-- Adds an event to the history. -/
def record (event : Event) : Exec Unit := modify fun m => { m with history := m.history ++ [event] }

/-- Appends to the log. -/
def log (v : Value) : Exec Unit := record (.logged v)

/-- Whether a value counts as true; the channel of the entity does while it has handlers. -/
def isTrue (v : Value) : Exec Bool := do
  match v, (← entity).channel with
  | .channel, some c => return !c.handlers.isEmpty
  | v, _ => return v.truthy

/-- Runs an operation on an entity: its result, and the entity afterwards. -/
def runOn (operation : Exec α) (e : EntityState) : StateM Traces (Except Halt α × EntityState) :=
  fun traces =>
    let (result, m) := operation.run ⟨e, traces.history, traces.nextSerial⟩
    ((result, m.entity), ⟨m.history, m.nextSerial⟩)

end Exec

end TrackedEntity
